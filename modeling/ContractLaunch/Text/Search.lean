/-!
Looking for one text inside another. The searches return what stands before and after the
occurrence they found, so no position is ever computed.
-/
namespace ContractLaunch.Text

def afterStart? : (mark s : List Char) → Option (List Char)
  | [], s => some s
  | _ :: _, [] => none
  | m :: ms, c :: cs => if m = c then afterStart? ms cs else none

def splitFirst? (mark : List Char) : List Char → Option (List Char × List Char)
  | [] => (afterStart? mark []).map ([], ·)
  | c :: cs =>
    match afterStart? mark (c :: cs) with
    | some rest => some ([], rest)
    | none => (splitFirst? mark cs).map fun (before, after) => (c :: before, after)

def splitLast? (mark : List Char) : List Char → Option (List Char × List Char)
  | [] => (afterStart? mark []).map ([], ·)
  | c :: cs =>
    match splitLast? mark cs with
    | some (before, after) => some (c :: before, after)
    | none => (afterStart? mark (c :: cs)).map ([], ·)

def occurs (mark s : List Char) : Bool := (splitFirst? mark s).isSome

def startsWithAny (marks : List (List Char)) (s : List Char) : Bool :=
  marks.any fun mark => (afterStart? mark s).isSome

def beforeAny? (marks : List (List Char)) : List Char → Option (List Char)
  | [] => if startsWithAny marks [] then some [] else none
  | c :: cs =>
    if startsWithAny marks (c :: cs) then some [] else (beforeAny? marks cs).map (c :: ·)

theorem eq_append_of_afterStart? {mark s rest : List Char} (h : afterStart? mark s = some rest) :
    s = mark ++ rest := by
  induction mark generalizing s with
  | nil => simpa [afterStart?] using h
  | cons m ms ih =>
    cases s with
    | nil => simp [afterStart?] at h
    | cons c cs =>
      by_cases hc : m = c
      · simp only [afterStart?, hc, if_true] at h
        simp [hc, ih h]
      · simp [afterStart?, hc] at h

theorem afterStart?_append (mark rest : List Char) : afterStart? mark (mark ++ rest) = some rest := by
  induction mark with
  | nil => rfl
  | cons m ms ih => simp [afterStart?, ih]

end ContractLaunch.Text

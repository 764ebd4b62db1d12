import ContractLaunch.Proofs.Json.Restoring
import ContractLaunch.Settings.Reading
import Mathlib
/-!
Settings that are read back from their JSON text, all of them, whatever their message is as long as it can
be read back itself. A configuration comes back without its mnemonics.
-/
namespace ContractLaunch

open Json

namespace Settings

theorem read_field {τ α β : Type} {field : Option τ} {read : τ → Option α} {a default : α}
    {next : α → Option β} {b : β} : field.bind read = some a → next a = some b →
    ((match field with
      | some v => read v
      | none => some default) >>= next) = some b := by
  intro given rest
  cases field with
  | none => cases given
  | some v =>
    have found : read v = some a := given
    change (read v >>= next) = some b
    rw [found]
    exact rest

theorem nullable_field {α : Type} {field : Option Term} {read : Reader (Option α)} {present : Reader α}
    {o : Option α} (given : field.bind (Term.nullable present) = some o)
    (same : ∀ w room, read ⟨w, room⟩ = Term.nullable present ⟨w, room⟩) : field.bind read = some o := by
  have equal : read = Term.nullable present := funext fun t => same t.written t.room
  rwa [equal]

theorem restores_settings {s : Settings} (whole : Whole s.instantiateMessage) :
    Restores JsonForm.read (JsonForm.write s) s (s.instantiateMessage.depth + 1) := by
  have message := restores_message whole
  have home := restores_text? s.keyringHome
  have attempts := restores_uint32 s.confirmAttempts
  have interval := restores_uint64 s.confirmInterval
  have code := restores_uint64? s.resumeCode
  refine restores_record rfl (by decide) ?_ fun r room deep held => ?_
  · simp only [List.forall_mem_cons]
    exact ⟨⟨_, rfl⟩, ⟨_, rfl⟩, ⟨_, rfl⟩, ⟨_, rfl⟩, ⟨_, rfl⟩, ⟨_, rfl⟩, ⟨_, rfl⟩, home.printed,
      attempts.printed, interval.printed, ⟨_, rfl⟩, ⟨_, rfl⟩, message.printed, code.printed, nofun⟩
  · simp only [List.forall_mem_cons] at held
    obtain ⟨rpcEndpoint, chainId, addressPrefix, nativeDenom, gasPrice, chainBinary, keyringBackend,
      keyringHome, confirmAttempts, confirmInterval, artifactsDir, label, instantiateMessage, resumeCode,
      -⟩ := held
    have text {name text : String} (held : (printedField (name, .text text)).Held r room) :
        r.required name Term.text? = some text := (restores_text text).required held (Nat.zero_le room)
    unfold ofFields?
    refine read_field (text rpcEndpoint) ?_
    refine read_field (text chainId) ?_
    refine read_field (text addressPrefix) ?_
    refine read_field (text nativeDenom) ?_
    refine read_field (text gasPrice) ?_
    refine read_field (text chainBinary) ?_
    refine read_field (text keyringBackend) ?_
    refine read_field (nullable_field (home.required keyringHome (Nat.zero_le room)) ?_) ?_
    · exact fun w _ => by cases w <;> rfl
    refine read_field (attempts.required confirmAttempts (Nat.zero_le room)) ?_
    refine read_field (interval.required confirmInterval (Nat.zero_le room)) ?_
    refine read_field (text artifactsDir) ?_
    refine read_field (text label) ?_
    refine read_field (message.required instantiateMessage deep) ?_
    refine read_field (nullable_field (code.required resumeCode (Nat.zero_le room)) ?_) ?_
    · exact fun w _ => by cases w <;> rfl
    rfl

end Settings

theorem Configuration.depth_lt (c : Configuration) :
    c.settings.instantiateMessage.depth < (JsonForm.write c).depth := by
  refine depth_lt_of_mem (m := ("instantiate_msg", c.settings.instantiateMessage)) ?_
  simp only [List.mem_cons, true_or, or_true]

theorem restores_configuration {c : Configuration} (whole : Whole c.settings.instantiateMessage) :
    Restores JsonForm.read (JsonForm.write c) (⟨c.settings, none, none⟩ : Configuration)
      (JsonForm.write c).depth := by
  have restores := (Settings.restores_settings whole).map fun s => (⟨s, none, none⟩ : Configuration)
  exact restores.mono c.depth_lt

end ContractLaunch

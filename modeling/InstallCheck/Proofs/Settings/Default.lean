import InstallCheck.Proofs.Files.Tree
import InstallCheck.Settings.Loading
import InstallCheck.Settings.Text

/-!
The default settings are those that are read from their own text, unless the environment has others.
-/
namespace InstallCheck.Settings

open Files (Disk bind_eq_ok_iff)

variable {env : Environment} {d : Disk} {file : String}

/-- No variable of the environment is a setting. -/
def Unset (env : Environment) : Prop := ∀ e ∈ env.entries, variablePlace? e.1 = none

theorem layerEnvironment_of_unset (unset : Unset env) (content : Document) :
    layerEnvironment content env = content := by
  unfold layerEnvironment
  refine List.foldlRecOn _ _ (motive := fun layered => layered = content) rfl ?_
  rintro _ rfl e member
  rw [unset e member]

theorem ofLayers_of_unset (unset : Unset env) (content : Document) :
    ofLayers content env = ofLayers content ∅ := by
  have empty : Unset ∅ := fun e none => nomatch none
  rw [ofLayers, ofLayers, layerEnvironment_of_unset unset, layerEnvironment_of_unset empty]

theorem ofBytes_text_default :
    ∃ content, ofBytes default.text.toUTF8.toList = .ok content ∧
      ofLayers content ∅ = .ok default := by
  rw [← bind_eq_ok_iff]
  decide +kernel

theorem load_of_read {bytes : List UInt8} (present : d.hasFile file = true)
    (content : d.read file = .ok bytes) :
    load env d (some file) = ofBytes bytes >>= fun content => ofLayers content env := by
  have actual : actualFile? d file = some file := by
    rw [actualFile?, List.find?_cons_of_pos present]
  have found : ofFile d file true = ofBytes bytes := by
    unfold ofFile
    rw [actual]
    simp only [content]
  rw [← found]
  rfl

theorem load_of_read_default (unset : Unset env) (present : d.hasFile file = true)
    (content : d.read file = .ok default.text.toUTF8.toList) :
    load env d (some file) = .ok default := by
  obtain ⟨document, parsed, layered⟩ := ofBytes_text_default
  rw [load_of_read present content, parsed, ← layered, ← ofLayers_of_unset unset]
  rfl

end InstallCheck.Settings

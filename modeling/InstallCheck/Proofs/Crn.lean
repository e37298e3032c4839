import InstallCheck.Crn
import InstallCheck.Proofs.Text.Splitting

/-!
Reading resource names. A text is read just if it keeps the grammar; its pieces are the segments of the
name that is read, so that the text of the name is the text that was read.
-/
namespace InstallCheck

open Text (intercalate_splitOn_char length_splitOn splitOn_char splitOn_intercalate_char splitOn_of_mem)

theorem splitAt_eq_splitOn (separator : Char) (cs : List Char) :
    splitAt separator cs = cs.splitOn separator := by
  induction cs with
  | nil => rfl
  | cons c cs ih =>
    rw [splitAt, ih, List.splitOn_cons_eq_if_modifyHead]
    cases pieces : cs.splitOn separator with
    | nil => exact absurd pieces (List.splitOn_ne_nil _ _)
    | cons piece pieces => simp

namespace Crn

/-- A text keeps the grammar of resource names: it has nine separators, `crn` stands before the first of
them, and something between the first and the second. -/
structure Grammar (s : String) : Prop where
  separators : s.toList.count ':' = 9
  scheme : s.toList.takeWhile (· ≠ ':') = "crn".toList
  version : (s.toList.dropWhile (· ≠ ':')).tail.takeWhile (· ≠ ':') ≠ []

section Reading

variable {s : String} {c : Crn} {pieces : List String}

theorem parse_eq (s : String) : parse s = ofSegments? (s.splitOn ":") := by
  have split : s.splitOn ":" = (s.toList.splitOn ':').map .ofList := splitOn_char ':' s
  rw [parse, splitAt_eq_splitOn, split]

theorem ofSegments?_eq_ok_iff : ofSegments? pieces = .ok c ↔ pieces = c.segments ∧ c.version ≠ "" := by
  constructor
  · intro read
    unfold ofSegments? at read
    split at read
    · rename_i scheme version _ _ _ _ _ _ _ _
      by_cases crn : scheme = "crn"
      · by_cases empty : version = ""
        · simp [crn, empty] at read
        · obtain rfl : _ = c := by simpa [crn, empty] using read
          exact ⟨by rw [segments, crn], empty⟩
      · simp [crn] at read
    · cases read
  · rintro ⟨rfl, version⟩
    simp [ofSegments?, segments, version]

theorem exists_ofSegments?_iff :
    (∃ c, ofSegments? pieces = .ok c) ↔
      pieces.length = 10 ∧ pieces[0]? = some "crn" ∧ pieces[1]? ≠ some "" := by
  constructor
  · rintro ⟨c, read⟩
    obtain ⟨rfl, version⟩ := ofSegments?_eq_ok_iff.mp read
    exact ⟨rfl, rfl, by simpa [segments] using version⟩
  · rintro ⟨ten, scheme, version⟩
    match pieces, ten with
    | [first, second, cloudName, cloudType, serviceName, location, scope, serviceInstance,
        resourceType, resource], _ =>
      obtain rfl : first = "crn" := by simpa using scheme
      have some : second ≠ "" := by simpa using version
      exact ⟨⟨second, cloudName, cloudType, serviceName, location, scope, serviceInstance,
        resourceType, resource⟩, ofSegments?_eq_ok_iff.mpr ⟨rfl, some⟩⟩

/-- The grammar speaks of the first two pieces of a text and of how many there are. -/
theorem grammar_iff :
    Grammar s ↔ (s.splitOn ":").length = 10 ∧ (s.splitOn ":")[0]? = some "crn" ∧
      (s.splitOn ":")[1]? ≠ some "" := by
  have split : s.splitOn ":" = (s.toList.splitOn ':').map .ofList := splitOn_char ':' s
  have length : (s.splitOn ":").length = s.toList.count ':' + 1 := by
    rw [split, List.length_map, length_splitOn]
  by_cases nine : s.toList.count ':' = 9
  · -- Behind the first separator there are eight more, so that there is a second piece to speak of.
    have cut := splitOn_of_mem (List.count_pos_iff.mp (by omega) : ':' ∈ s.toList)
    have fewer := congrArg List.length cut
    rw [length_splitOn, List.length_cons, length_splitOn] at fewer
    have cutAgain := splitOn_of_mem
      (List.count_pos_iff.mp (by omega) : ':' ∈ (s.toList.dropWhile (· ≠ ':')).tail)
    rw [length, split, cut, cutAgain]
    simp only [List.map_cons, List.getElem?_cons_zero, List.getElem?_cons_succ, Option.some_inj, ne_eq,
      ← String.toList_inj, String.toList_ofList]
    constructor
    · rintro ⟨-, scheme, version⟩
      exact ⟨by omega, by simpa using scheme, by simpa using version⟩
    · rintro ⟨-, scheme, version⟩
      exact ⟨nine, by simpa using scheme, by simpa using version⟩
  · constructor
    · exact fun grammar => absurd grammar.separators nine
    · rintro ⟨ten, -⟩
      omega

theorem exists_parse_iff : (∃ c, parse s = .ok c) ↔ Grammar s := by
  rw [parse_eq, exists_ofSegments?_iff, grammar_iff]

theorem splitOn_of_parse (read : parse s = .ok c) : s.splitOn ":" = c.segments := by
  rw [parse_eq] at read
  exact (ofSegments?_eq_ok_iff.mp read).1

theorem text_of_parse (read : parse s = .ok c) : c.text = s := by
  rw [text, ← splitOn_of_parse read]
  exact intercalate_splitOn_char ':' s

theorem segments_injective {c d : Crn} (same : c.segments = d.segments) : c = d := by
  cases c
  cases d
  simpa [segments] using same

theorem exists_parse_intercalate (ten : pieces.length = 10) (apart : ∀ t ∈ pieces, ':' ∉ t.toList)
    (scheme : pieces[0]? = some "crn") (version : pieces[1]? ≠ some "") :
    ∃ c, parse (":".intercalate pieces) = .ok c ∧ c.segments = pieces := by
  have some : pieces ≠ [] := List.ne_nil_of_length_pos (by omega)
  have back : (":".intercalate pieces).splitOn ":" = pieces := splitOn_intercalate_char ':' some apart
  obtain ⟨c, read⟩ := exists_ofSegments?_iff.mpr ⟨ten, scheme, version⟩
  refine ⟨c, ?_, (ofSegments?_eq_ok_iff.mp read).1.symm⟩
  rw [parse_eq, back, read]

end Reading

/-- **A text is read as a resource name just if it keeps the grammar, and nothing of it is lost.** Its
ten pieces are the segments of the name and the parts of the name are those pieces, so that the text of
the name is the text that was read, and names that were read are the same just if their texts are.
Conversely, ten texts without separators that keep the grammar make up the text of a name with just
these segments. -/
theorem parse_keeps_grammar (s : String) :
    ((∃ c, parse s = .ok c) ↔ Grammar s) ∧
    (∀ c, parse s = .ok c →
      c.text = s ∧ c.segments = s.splitOn ":" ∧
      (s.splitOn ":")[1]? = some c.version ∧
      (s.splitOn ":")[4]? = some c.serviceName ∧
      (s.splitOn ":")[5]? = some c.location ∧
      (s.splitOn ":")[6]? = some c.scope ∧
      (s.splitOn ":")[7]? = some c.serviceInstance ∧
      ∀ s' c', parse s' = .ok c' → (c = c' ↔ s = s')) ∧
    (∀ pieces : List String, pieces.length = 10 → (∀ t ∈ pieces, ':' ∉ t.toList) →
      pieces[0]? = some "crn" → pieces[1]? ≠ some "" →
      ∃ c, parse (":".intercalate pieces) = .ok c ∧ c.segments = pieces) := by
  refine ⟨exists_parse_iff, ?_, fun _ => exists_parse_intercalate⟩
  intro c read
  rw [splitOn_of_parse read]
  refine ⟨text_of_parse read, rfl, rfl, rfl, rfl, rfl, rfl, ?_⟩
  intro s' c' readToo
  constructor
  · rintro rfl
    rw [← text_of_parse read, text_of_parse readToo]
  · rintro rfl
    exact segments_injective ((splitOn_of_parse read).symm.trans (splitOn_of_parse readToo))

namespace Sample

/-- The segments of a name, of which the last two are empty. -/
def pieces : List String :=
  ["crn", "v1", "bluemix", "public", "internet-svcs", "global", "a/account", "instance", "", ""]

def name : String := "crn:v1:bluemix:public:internet-svcs:global:a/account:instance::"

/-- A name with a version and nothing else. -/
def bareName : String := "crn:v2::::::::"

end Sample

/-- Segments may be empty, also at the end; only the version may not. -/
theorem parse_keeps_grammar_sample :
    (∃ c d, parse Sample.name = .ok c ∧ parse Sample.bareName = .ok d ∧ c.text = Sample.name ∧
      c.segments = Sample.name.splitOn ":" ∧
      (Sample.name.splitOn ":")[7]? = some c.serviceInstance ∧
      (c = d ↔ Sample.name = Sample.bareName)) ∧
    Sample.pieces.length = 10 ∧ (∀ t ∈ Sample.pieces, ':' ∉ t.toList) ∧
    Sample.pieces[0]? = some "crn" ∧ Sample.pieces[1]? ≠ some "" ∧
    ∃ c, parse (":".intercalate Sample.pieces) = .ok c ∧ c.segments = Sample.pieces := by
  obtain ⟨accepts, reads, writes⟩ := parse_keeps_grammar Sample.name
  obtain ⟨acceptsBare, -, -⟩ := parse_keeps_grammar Sample.bareName
  obtain ⟨c, read⟩ := accepts.mpr ⟨by decide, by decide, by decide⟩
  obtain ⟨d, readToo⟩ := acceptsBare.mpr ⟨by decide, by decide, by decide⟩
  obtain ⟨text, segments, -, -, -, -, serviceInstance, same⟩ := reads c read
  have apart : ∀ t ∈ Sample.pieces, ':' ∉ t.toList := by decide
  have some : Sample.pieces[1]? ≠ some "" := by decide
  exact ⟨⟨c, d, read, readToo, text, segments, serviceInstance, same _ d readToo⟩, rfl, apart, rfl, some,
    writes Sample.pieces rfl apart rfl some⟩

end Crn

end InstallCheck

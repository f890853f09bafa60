import SmellRefactor.Config.Build
import SmellRefactor.Proofs.Text.Spelling

/-!
# Texts that name a smell

A text names a smell if it spells its key or its name.  The fourteen keys and names differ in more
than case, so that no text names two smells and the order in which smells are tried does not matter.
Every other text is refused with a message that repeats it as it stands.
-/

namespace SmellRefactor

namespace CodeSmell

variable {text : String} {smell : CodeSmell}

/-- Whether a text names a smell, by its key or by its name. -/
def NamedBy (smell : CodeSmell) (text : String) : Prop :=
  Text.Spells text smell.key ∨ Text.Spells text smell.name

instance (smell : CodeSmell) (text : String) : Decidable (smell.NamedBy text) :=
  inferInstanceAs (Decidable (_ ∨ _))

/-- The keys and names of different smells differ in more than case. -/
theorem eq_of_sameLetters : ∀ a b : CodeSmell, ∀ v ∈ [a.key, a.name], ∀ w ∈ [b.key, b.name],
    Text.sameLetters v.toList w.toList = true → a = b := by
  have hdistinct : ∀ a ∈ all, ∀ b ∈ all, ∀ v ∈ [a.key, a.name], ∀ w ∈ [b.key, b.name],
      Text.sameLetters v.toList w.toList = true → a = b := by
    decide
  exact fun a b => hdistinct a (mem_all a) b (mem_all b)

theorem namedBy_iff :
    smell.NamedBy text ↔ ∃ word ∈ [smell.key, smell.name], Text.Spells text word := by
  simp [NamedBy]

theorem NamedBy.unique {a b : CodeSmell} (ha : a.NamedBy text) (hb : b.NamedBy text) : a = b := by
  obtain ⟨v, hv, hspellsA⟩ := namedBy_iff.1 ha
  obtain ⟨w, hw, hspellsB⟩ := namedBy_iff.1 hb
  exact eq_of_sameLetters a b v hv w hw (hspellsA.sameLetters_eq hspellsB)

/-- Whatever the order in which all smells are tried, the one that is named is found. -/
theorem find?_namedBy_eq_some_iff {order : List CodeSmell} (horder : ∀ smell, smell ∈ order) :
    order.find? (fun smell => decide (smell.NamedBy text)) = some smell ↔ smell.NamedBy text := by
  constructor
  · intro hfound
    simpa using List.find?_some hfound
  · intro hnamed
    have hfinds : (order.find? fun smell => decide (smell.NamedBy text)).isSome = true :=
      List.find?_isSome.2 ⟨smell, horder smell, by simpa using hnamed⟩
    obtain ⟨other, hother⟩ := Option.isSome_iff_exists.1 hfinds
    have hnamedOther : other.NamedBy text := by simpa using List.find?_some hother
    rw [hother, hnamedOther.unique hnamed]

theorem ofText?_eq_find? (text : String) :
    ofText? text = all.find? fun smell => decide (smell.NamedBy text) := by
  have htest : ∀ smell : CodeSmell, decide (smell.NamedBy text) =
      (Text.sameLetters smell.key.toList (Text.trim text.toList) ||
        Text.sameLetters smell.name.toList (Text.trim text.toList)) := by
    intro smell
    rw [Bool.eq_iff_iff, decide_eq_true_eq, Bool.or_eq_true, ← Text.spells_iff, ← Text.spells_iff]
    rfl
  simp only [ofText?, htest]

theorem ofText?_eq_some_iff : ofText? text = some smell ↔ smell.NamedBy text := by
  rw [ofText?_eq_find?, find?_namedBy_eq_some_iff mem_all]

theorem ofText?_eq_none_iff : ofText? text = none ↔ ∀ smell : CodeSmell, ¬ smell.NamedBy text := by
  rw [Option.eq_none_iff_forall_ne_some]
  simp only [ne_eq, ofText?_eq_some_iff]

theorem parse_eq_ok_iff : parse text = .ok smell ↔ smell.NamedBy text := by
  rw [← ofText?_eq_some_iff, parse]
  cases ofText? text <;> simp

theorem parse_eq_error_iff {message : String} :
    parse text = .error message ↔
      (∀ smell : CodeSmell, ¬ smell.NamedBy text) ∧ message = unknownMessage text := by
  rw [← ofText?_eq_none_iff, parse]
  cases ofText? text with
  | some smell => exact ⟨nofun, fun h => nomatch h.1⟩
  | none => exact ⟨fun h => ⟨rfl, (Except.error.inj h).symm⟩, fun h => by rw [h.2]⟩

end CodeSmell

namespace ToolEntry

variable {entry : ToolEntry}

theorem smell?_eq_ok_iff {smell : CodeSmell} :
    entry.smell? = .ok smell ↔ smell.NamedBy entry.smell := by
  rw [← CodeSmell.ofText?_eq_some_iff, smell?]
  cases CodeSmell.ofText? entry.smell <;> simp

theorem smell?_eq_error_iff {issue : Config.EntryIssue} :
    entry.smell? = .error issue ↔
      (∀ smell : CodeSmell, ¬ smell.NamedBy entry.smell) ∧ issue = .unknownSmell entry.smell := by
  rw [← CodeSmell.ofText?_eq_none_iff, smell?]
  cases CodeSmell.ofText? entry.smell with
  | some smell => exact ⟨nofun, fun h => nomatch h.1⟩
  | none => exact ⟨fun h => ⟨rfl, (Except.error.inj h).symm⟩, fun h => by rw [h.2]⟩

end ToolEntry

namespace CodeSmell

/-- A text is read as the smell whose key or name it spells.  It spells those of at most one smell,
so that trying all smells in another order finds the same one, and a text that spells none of them
is refused with a message that shows it as it stands.  The smell of a configured tool is read in the
same way. -/
theorem parse_spelling (text : String) :
    (∀ smell, parse text = .ok smell ↔ smell.NamedBy text) ∧
      (∀ a b : CodeSmell, a.NamedBy text → b.NamedBy text → a = b) ∧
      (∀ order : List CodeSmell, (∀ smell, smell ∈ order) →
        order.find? (fun smell => decide (smell.NamedBy text)) = ofText? text) ∧
      (∀ message, parse text = .error message ↔
        (∀ smell : CodeSmell, ¬ smell.NamedBy text) ∧
          message = "Unknown code smell: '" ++ text ++ "'") ∧
      ∀ program args name,
        let entry : ToolEntry := ⟨text, program, args, name⟩
        (∀ smell, entry.smell? = .ok smell ↔ smell.NamedBy text) ∧
          ∀ issue, entry.smell? = .error issue ↔
            (∀ smell : CodeSmell, ¬ smell.NamedBy text) ∧ issue = .unknownSmell text := by
  refine ⟨fun smell => parse_eq_ok_iff, fun a b ha hb => ha.unique hb, ?_,
    fun message => parse_eq_error_iff, ?_⟩
  · intro order horder
    apply Option.ext
    intro smell
    rw [find?_namedBy_eq_some_iff horder, ofText?_eq_some_iff]
  · intro program args name entry
    exact ⟨fun smell => ToolEntry.smell?_eq_ok_iff, fun issue => ToolEntry.smell?_eq_error_iff⟩

/-- Capitals, small letters and white space beyond ASCII around a key; and a name that misses its
blank. -/
theorem parse_spelling_loose :
    let text := "\u2003LONG_mEthod\u0085\n"
    let other := " LongMethod"
    parse text = .ok .longMethod ∧
      all.reverse.find? (fun smell => decide (smell.NamedBy text)) = some .longMethod ∧
      parse other = .error "Unknown code smell: ' LongMethod'" ∧
      ∀ smell : CodeSmell, smell.NamedBy text → smell = .longMethod := by
  intro text other
  obtain ⟨hok, hunique, horder, -, -⟩ := parse_spelling text
  obtain ⟨-, -, -, herror, -⟩ := parse_spelling other
  have hnamed : longMethod.NamedBy text := by decide
  have hunknown : ∀ smell : CodeSmell, ¬ smell.NamedBy other := by
    intro smell
    cases smell <;> decide
  refine ⟨(hok _).2 hnamed, ?_, ?_, fun smell h => hunique _ _ h hnamed⟩
  · rw [horder all.reverse fun smell => List.mem_reverse.2 (mem_all smell)]
    decide
  · exact (herror _).2 ⟨hunknown, by decide⟩

end CodeSmell

end SmellRefactor

import SmellRefactor.Proofs.Config.Tools
import SmellRefactor.Proofs.Text.Spelling

/-!
# Acceptable configurations

Tools are registered one after another, and the first entry that cannot be registered ends it.  This
module says beforehand, by looking at the entries alone, which lists of entries are acceptable,
which entry of another list is the offending one and what is wrong with it.  The registry of an
acceptable list has one tool for each entry and does not depend on the order of the entries.
-/

namespace SmellRefactor

/-! ## Blank texts -/

/-- Whether the program of an entry has a character that is not white space. -/
def ToolEntry.HasProgram (entry : ToolEntry) : Prop :=
  ∃ c ∈ entry.program.toList, Text.isBlank c = false

theorem isBlankText_program_iff {entry : ToolEntry} :
    isBlankText entry.program = true ↔ ¬ entry.HasProgram := by
  rw [isBlankText, List.isEmpty_iff, Text.trim_eq_nil_iff]
  simp [ToolEntry.HasProgram]

/-! ## Entries behind other entries -/

/-- What is wrong with an entry that stands behind some others: it names no smell; or it names one
and has no program; or it has a program, and an earlier entry names the same smell. -/
inductive Offends (earlier : List ToolEntry) (entry : ToolEntry) : Config.EntryIssue → Prop
  | unknown (hsmell : CodeSmell.ofText? entry.smell = none) :
      Offends earlier entry (.unknownSmell entry.smell)
  | blank {smell : CodeSmell} (hsmell : CodeSmell.ofText? entry.smell = some smell)
      (hprogram : ¬ entry.HasProgram) :
      Offends earlier entry (.blankProgram smell)
  | repeated {smell : CodeSmell} (hsmell : CodeSmell.ofText? entry.smell = some smell)
      (hprogram : entry.HasProgram)
      (hearlier : ∃ other ∈ earlier, CodeSmell.ofText? other.smell = some smell) :
      Offends earlier entry (.repeatedSmell smell)

/-- Whether nothing is wrong with an entry for a smell that stands behind some others. -/
structure Fits (earlier : List ToolEntry) (entry : ToolEntry) (smell : CodeSmell) : Prop where
  names : CodeSmell.ofText? entry.smell = some smell
  program : entry.HasProgram
  free : ∀ other ∈ earlier, CodeSmell.ofText? other.smell ≠ some smell

theorem exists_offends_or_fits (earlier : List ToolEntry) (entry : ToolEntry) :
    (∃ issue, Offends earlier entry issue) ∨ ∃ smell, Fits earlier entry smell := by
  cases hsmell : CodeSmell.ofText? entry.smell with
  | none => exact .inl ⟨_, .unknown hsmell⟩
  | some smell =>
      by_cases hprogram : entry.HasProgram
      · by_cases hearlier : ∃ other ∈ earlier, CodeSmell.ofText? other.smell = some smell
        · exact .inl ⟨_, .repeated hsmell hprogram hearlier⟩
        · exact .inr ⟨smell, hsmell, hprogram, fun other hother heq =>
            hearlier ⟨other, hother, heq⟩⟩
      · exact .inl ⟨_, .blank hsmell hprogram⟩

/-- Whether every entry names a smell and has a program, and no two entries name the same smell. -/
structure Acceptable (entries : List ToolEntry) : Prop where
  known : ∀ entry ∈ entries, (CodeSmell.ofText? entry.smell).isSome
  program : ∀ entry ∈ entries, entry.HasProgram
  different : entries.Pairwise fun a b => CodeSmell.ofText? a.smell ≠ CodeSmell.ofText? b.smell

namespace Acceptable

theorem nil : Acceptable [] :=
  ⟨by simp, by simp, List.Pairwise.nil⟩

/-- An acceptable list can be extended by an entry that fits behind it. -/
theorem append_singleton {earlier : List ToolEntry} (h : Acceptable earlier) {entry : ToolEntry}
    {smell : CodeSmell} (hfits : Fits earlier entry smell) : Acceptable (earlier ++ [entry]) := by
  refine ⟨?_, ?_, ?_⟩
  · intro other hother
    rcases List.mem_append.1 hother with hother | hother
    · exact h.known other hother
    · rw [List.mem_singleton.1 hother, hfits.names]
      rfl
  · intro other hother
    rcases List.mem_append.1 hother with hother | hother
    · exact h.program other hother
    · rw [List.mem_singleton.1 hother]
      exact hfits.program
  · refine List.pairwise_append.2 ⟨h.different, List.pairwise_singleton _ _, ?_⟩
    intro other hother last hlast
    rw [List.mem_singleton.1 hlast, hfits.names]
    exact hfits.free other hother

/-- Every entry of an acceptable list fits behind the entries in front of it. -/
theorem exists_fits {earlier back : List ToolEntry} {entry : ToolEntry}
    (h : Acceptable (earlier ++ entry :: back)) : ∃ smell, Fits earlier entry smell := by
  have hmem : entry ∈ earlier ++ entry :: back := by simp
  obtain ⟨smell, hsmell⟩ := Option.isSome_iff_exists.1 (h.known entry hmem)
  refine ⟨smell, hsmell, h.program entry hmem, ?_⟩
  intro other hother
  rw [← hsmell]
  exact (List.pairwise_append.1 h.different).2.2 other hother entry List.mem_cons_self

theorem perm {entries others : List ToolEntry} (h : Acceptable entries)
    (hperm : others.Perm entries) : Acceptable others :=
  ⟨fun entry hentry => h.known entry (hperm.subset hentry),
    fun entry hentry => h.program entry (hperm.subset hentry),
    (hperm.pairwise_iff fun hne => hne.symm).2 h.different⟩

end Acceptable

/-- A list that is not acceptable has a first entry with which something is wrong. -/
theorem acceptable_or_exists_offends (entries : List ToolEntry) :
    Acceptable entries ∨ ∃ front entry back issue, entries = front ++ entry :: back ∧
      Acceptable front ∧ Offends front entry issue := by
  induction entries using List.reverseRecOn with
  | nil => exact .inl .nil
  | append_singleton entries last ih =>
      rcases ih with h | ⟨front, entry, back, issue, rfl, hfront, hoffends⟩
      · rcases exists_offends_or_fits entries last with ⟨issue, hoffends⟩ | ⟨smell, hfits⟩
        · exact .inr ⟨entries, last, [], issue, rfl, h, hoffends⟩
        · exact .inl (h.append_singleton hfits)
      · exact .inr ⟨front, entry, back ++ [last], issue, by simp, hfront, hoffends⟩

/-! ## Registering entries -/

namespace ToolEntry

theorem tool?_of_unknown {entry : ToolEntry} (h : CodeSmell.ofText? entry.smell = none) :
    entry.tool? = .error (.unknownSmell entry.smell) := by
  rw [tool?, smell?, h]
  rfl

theorem tool?_of_known {entry : ToolEntry} {smell : CodeSmell}
    (h : CodeSmell.ofText? entry.smell = some smell) :
    entry.tool? =
      if isBlankText entry.program then .error (.blankProgram smell)
      else .ok (.ofEntry smell entry) := by
  rw [tool?, smell?, h]
  rfl

end ToolEntry

namespace Registry

variable {σ : Type} {launch : Launcher σ} {r : Registry σ} {earlier : List ToolEntry}
  {entry : ToolEntry}

/-- Whether the smells that have a strategy are those that some entries name. -/
def Covers (r : Registry σ) (entries : List ToolEntry) : Prop :=
  ∀ smell, (r.find? smell).isSome ↔
    ∃ entry ∈ entries, CodeSmell.ofText? entry.smell = some smell

theorem covers_empty : (empty : Registry σ).Covers [] := by
  intro smell
  simp [empty, find?]

theorem Covers.extend (h : r.Covers earlier) {smell : CodeSmell}
    (hsmell : CodeSmell.ofText? entry.smell = some smell) :
    (r.extend ((Tool.ofEntry smell entry).strategy launch)).Covers (earlier ++ [entry]) := by
  intro other
  have hown : ((Tool.ofEntry smell entry).strategy launch).smell = smell :=
    Tool.smell_ofEntry smell entry
  rw [find?_extend, hown]
  simp only [List.mem_append, List.mem_singleton, or_and_right, exists_or, exists_eq_left,
    hsmell, Option.some.injEq, ← h other]
  by_cases hother : other = smell
  · simp [hother]
  · simp [hother, Ne.symm hother]

/-- An entry that fits behind the registered ones is registered. -/
theorem addEntries_of_fits (hr : r.Covers earlier) {smell : CodeSmell}
    (h : Fits earlier entry smell) (entries : List ToolEntry) :
    addEntries launch (entry :: entries) r =
      addEntries launch entries (r.extend ((Tool.ofEntry smell entry).strategy launch)) := by
  have hprogram : ¬ isBlankText entry.program = true :=
    fun hblank => isBlankText_program_iff.1 hblank h.program
  have hfree : ¬ (r.find? smell).isSome = true := by
    intro hsome
    obtain ⟨other, hother, heq⟩ := (hr smell).1 hsome
    exact h.free other hother heq
  rw [addEntries_cons, ToolEntry.tool?_of_known h.names, if_neg hprogram]
  simp only [Except.bind, Tool.smell_ofEntry, if_neg hfree]

/-- An entry with which something is wrong behind the registered ones ends the registration. -/
theorem addEntries_of_offends (hr : r.Covers earlier) {issue : Config.EntryIssue}
    (h : Offends earlier entry issue) (entries : List ToolEntry) :
    addEntries launch (entry :: entries) r = .error issue := by
  rw [addEntries_cons]
  cases h with
  | unknown hsmell =>
      rw [ToolEntry.tool?_of_unknown hsmell]
      rfl
  | blank hsmell hprogram =>
      rw [ToolEntry.tool?_of_known hsmell, if_pos (isBlankText_program_iff.2 hprogram)]
      rfl
  | @repeated smell hsmell hprogram hearlier =>
      have hfilled : ¬ isBlankText entry.program = true :=
        fun hblank => isBlankText_program_iff.1 hblank hprogram
      rw [ToolEntry.tool?_of_known hsmell, if_neg hfilled]
      simp only [Except.bind, Tool.smell_ofEntry, if_pos ((hr smell).2 hearlier)]

/-- An acceptable front part of the entries is registered, whatever stands behind it. -/
theorem exists_addEntries_append (launch : Launcher σ) {front : List ToolEntry}
    (hr : r.Covers earlier) (h : Acceptable (earlier ++ front)) :
    ∃ r' : Registry σ, r'.Covers (earlier ++ front) ∧
      ∀ back, addEntries launch (front ++ back) r = addEntries launch back r' := by
  induction front generalizing r earlier with
  | nil => exact ⟨r, by rwa [List.append_nil], fun back => rfl⟩
  | cons entry front ih =>
      obtain ⟨smell, hfits⟩ := h.exists_fits
      have hshift : earlier ++ entry :: front = earlier ++ [entry] ++ front := by simp
      rw [hshift] at h ⊢
      obtain ⟨r', hcovers, hrest⟩ := ih (hr.extend hfits.names) h
      refine ⟨r', hcovers, ?_⟩
      intro back
      rw [List.cons_append, addEntries_of_fits hr hfits, hrest]

end Registry

namespace Configuration

variable {σ : Type} {c : Configuration} {launch : Launcher σ} {r : Registry σ}

/-- The registry of acceptable entries. -/
theorem exists_registry_of_acceptable (h : Acceptable c.strategies) (launch : Launcher σ) :
    ∃ r : Registry σ, c.registry launch = .ok r ∧ r.Covers c.strategies := by
  obtain ⟨r, hcovers, hrest⟩ :=
    Registry.exists_addEntries_append launch Registry.covers_empty h
  refine ⟨r, ?_, hcovers⟩
  rw [registry, ← List.append_nil c.strategies]
  exact hrest []

/-- Where something is wrong with an entry behind an acceptable front part, there is no registry. -/
theorem registry_of_offends {front back : List ToolEntry} {entry : ToolEntry}
    {issue : Config.EntryIssue} (hsplit : c.strategies = front ++ entry :: back)
    (hfront : Acceptable front) (h : Offends front entry issue) (launch : Launcher σ) :
    c.registry launch = .error issue := by
  obtain ⟨r, hcovers, hrest⟩ :=
    Registry.exists_addEntries_append launch Registry.covers_empty hfront
  rw [registry, hsplit, hrest]
  exact Registry.addEntries_of_offends hcovers h back

theorem acceptable_of_registry (h : c.registry launch = .ok r) : Acceptable c.strategies := by
  rcases acceptable_or_exists_offends c.strategies with
    haccept | ⟨front, entry, back, issue, hsplit, hfront, hoffends⟩
  · exact haccept
  · rw [registry_of_offends hsplit hfront hoffends] at h
    cases h

/-- The smells that have a strategy are those that the entries name, each one once. -/
theorem handled_perm (h : c.registry launch = .ok r) :
    r.handled.Perm (c.strategies.filterMap fun entry => CodeSmell.ofText? entry.smell) := by
  have haccept := acceptable_of_registry h
  obtain ⟨r', hr', hcovers⟩ := exists_registry_of_acceptable haccept launch
  obtain rfl : r = r' := Except.ok.inj (h.symm.trans hr')
  have hnodup : (c.strategies.filterMap fun entry => CodeSmell.ofText? entry.smell).Nodup := by
    refine List.Pairwise.filterMap _ ?_ haccept.different
    intro a b hne smell hsmell smell' hsmell'
    rw [hsmell, hsmell'] at hne
    exact fun heq => hne (congrArg some heq)
  rw [List.perm_ext_iff_of_nodup r.handled_nodup hnodup]
  intro smell
  rw [Registry.mem_handled, hcovers smell, List.mem_filterMap]

theorem check_of_registry (h : c.registry launch = .ok r) : c.check = .ok () := by
  rw [c.check_eq launch, h]
  rfl

theorem entryFor?_perm {other : Configuration} (h : c.check = .ok ()) (h' : other.check = .ok ())
    (hperm : other.strategies.Perm c.strategies) (smell : CodeSmell) :
    other.entryFor? smell = c.entryFor? smell := by
  have hentries := hperm.filter (ToolEntry.isFor smell)
  rw [filter_isFor h, filter_isFor h'] at hentries
  cases hother : other.entryFor? smell <;> cases hown : c.entryFor? smell <;>
    simp_all

/-- The one entry for a smell makes the strategy for it, named as the entry says or else like its
program. -/
theorem find?_of_mem (h : c.registry launch = .ok r) {entry : ToolEntry}
    (hentry : entry ∈ c.strategies) {smell : CodeSmell}
    (hsmell : CodeSmell.ofText? entry.smell = some smell) :
    c.strategies.filter (ToolEntry.isFor smell) = [entry] ∧
      r.find? smell = some (Tool.strategy
        ⟨smell, entry.name.getD entry.program, entry.program, entry.args⟩ launch) := by
  have hfilter := filter_isFor (check_of_registry h) smell
  have hmem : entry ∈ c.strategies.filter (ToolEntry.isFor smell) :=
    List.mem_filter.2 ⟨hentry, by simp [ToolEntry.isFor, hsmell]⟩
  rw [hfilter, Option.mem_toList] at hmem
  rw [hfilter, find?_registry h, hmem, Option.map_some, Tool.ofEntry_eq]
  exact ⟨rfl, rfl⟩

/-- Entries that are listed in another order make the same registry. -/
theorem registry_perm (h : c.registry launch = .ok r) {other : Configuration}
    (hperm : other.strategies.Perm c.strategies) : other.registry launch = .ok r := by
  obtain ⟨r', hr', -⟩ :=
    exists_registry_of_acceptable ((acceptable_of_registry h).perm hperm) launch
  have hsame : r' = r := by
    apply Registry.ext_find?
    intro smell
    rw [find?_registry hr', find?_registry h,
      entryFor?_perm (check_of_registry h) (check_of_registry hr') hperm]
  rw [hr', hsame]

/-- The entries of a configuration can be registered exactly when they are acceptable.  Then the
registry handles just the smells that they name, as many as there are entries, and the strategy for
a smell is the tool of the one entry for it; and entries listed in another order make the same
registry.  Otherwise an issue is reported exactly when it is what is wrong with the first entry
behind an acceptable front part. -/
theorem registry_accepts (c : Configuration) (launch : Launcher σ) :
    ((∃ r, c.registry launch = .ok r) ↔ Acceptable c.strategies) ∧
    (∀ r, c.registry launch = .ok r →
      r.handled.Perm (c.strategies.filterMap fun entry => CodeSmell.ofText? entry.smell) ∧
      r.size = c.strategies.length ∧
      (∀ entry ∈ c.strategies, ∀ smell, CodeSmell.ofText? entry.smell = some smell →
        c.strategies.filter (ToolEntry.isFor smell) = [entry] ∧
        r.find? smell = some (Tool.strategy
          ⟨smell, entry.name.getD entry.program, entry.program, entry.args⟩ launch)) ∧
      ∀ other : Configuration, other.strategies.Perm c.strategies →
        other.registry launch = .ok r) ∧
    ∀ issue, c.registry launch = .error issue ↔
      ∃ front entry back, c.strategies = front ++ entry :: back ∧ Acceptable front ∧
        Offends front entry issue := by
  refine ⟨⟨?_, ?_⟩, ?_, ?_⟩
  · rintro ⟨r, hr⟩
    exact acceptable_of_registry hr
  · intro haccept
    obtain ⟨r, hr, -⟩ := exists_registry_of_acceptable haccept launch
    exact ⟨r, hr⟩
  · intro r hr
    have hhandled := handled_perm hr
    refine ⟨hhandled, ?_, fun entry hentry smell => find?_of_mem hr hentry,
      fun other => registry_perm hr⟩
    rw [← r.length_handled, hhandled.length_eq, List.filterMap_length_eq_length]
    exact (acceptable_of_registry hr).known
  · intro issue
    constructor
    · intro herror
      rcases acceptable_or_exists_offends c.strategies with
        haccept | ⟨front, entry, back, other, hsplit, hfront, hoffends⟩
      · obtain ⟨r, hr, -⟩ := exists_registry_of_acceptable haccept launch
        rw [hr] at herror
        cases herror
      · rw [registry_of_offends hsplit hfront hoffends] at herror
        exact ⟨front, entry, back, hsplit, hfront, Except.error.inj herror ▸ hoffends⟩
    · rintro ⟨front, entry, back, hsplit, hfront, hoffends⟩
      exact registry_of_offends hsplit hfront hoffends launch

/-- In the list that is refused, the second entry has no program, repeats the smell of the first one
and stands before an entry that names no smell. -/
theorem registry_accepts_spellings :
    let launch : Launcher Unit := fun _ _ world => (.error .notFound, world)
    let long : ToolEntry := ⟨" Long Method ", "extract", ["-q"], some "extraction"⟩
    let deep : ToolEntry := ⟨"deep_nesting", "flatten", [], none⟩
    let hollow : ToolEntry := ⟨"LONG_METHOD", " \t", [], none⟩
    let stray : ToolEntry := ⟨"god_object", "split", [], none⟩
    let accepted : Configuration := ⟨.sequential, [long, deep]⟩
    let swapped : Configuration := ⟨.standard, [deep, long]⟩
    let refused : Configuration := ⟨.sequential, [long, hollow, stray]⟩
    Acceptable accepted.strategies ∧ swapped.strategies.Perm accepted.strategies ∧
      Offends [long] hollow (.blankProgram .longMethod) ∧
      (∃ r, accepted.registry launch = .ok r ∧ swapped.registry launch = .ok r ∧ r.size = 2 ∧
        r.find? .longMethod =
          some (Tool.strategy ⟨.longMethod, "extraction", "extract", ["-q"]⟩ launch) ∧
        r.find? .deepNesting =
          some (Tool.strategy ⟨.deepNesting, "flatten", "flatten", []⟩ launch)) ∧
      refused.registry launch = .error (.blankProgram .longMethod) := by
  intro launch long deep hollow stray accepted swapped refused
  have hlong : CodeSmell.ofText? long.smell = some .longMethod := by decide
  have hdeep : CodeSmell.ofText? deep.smell = some .deepNesting := by decide
  have hprogram : long.HasProgram := ⟨'e', by decide, by decide⟩
  have hfront : Acceptable [long] :=
    Acceptable.nil.append_singleton ⟨hlong, hprogram, by simp⟩
  have haccept : Acceptable accepted.strategies :=
    hfront.append_singleton ⟨hdeep, ⟨'f', by decide, by decide⟩, by decide⟩
  have hswap : swapped.strategies.Perm accepted.strategies := .swap long deep []
  have hblank : ¬ hollow.HasProgram := isBlankText_program_iff.1 (by decide)
  have hoffends : Offends [long] hollow (.blankProgram .longMethod) := .blank (by decide) hblank
  obtain ⟨⟨-, hok⟩, hregistry, -⟩ := registry_accepts accepted launch
  obtain ⟨-, -, herror⟩ := registry_accepts refused launch
  obtain ⟨r, hr⟩ := hok haccept
  obtain ⟨-, hsize, hfind, hperm⟩ := hregistry r hr
  exact ⟨haccept, hswap, hoffends,
    ⟨r, hr, hperm swapped hswap, hsize, (hfind long (by simp [accepted]) _ hlong).2,
      (hfind deep (by simp [accepted]) _ hdeep).2⟩,
    (herror _).2 ⟨[long], hollow, [stray], rfl, hfront, hoffends⟩⟩

end Configuration

end SmellRefactor

import SmellRefactor.Config.Build
import SmellRefactor.Proofs.Strategy.Registry

/-!
# The tools of a configuration

A configuration whose entries are accepted has one entry at most for each smell, and the strategy
registered for a smell is the tool of this entry.  Whether the entries are accepted, and what is
wrong with them otherwise, is the same for every launcher.
-/

namespace SmellRefactor

/-! ## Entries and their tools -/

namespace Tool

/-- The tool of an entry is named as the entry says, or else like its program. -/
theorem ofEntry_eq (smell : CodeSmell) (entry : ToolEntry) :
    ofEntry smell entry =
      ⟨smell, entry.name.getD entry.program, entry.program, entry.args⟩ := by
  cases entry with
  | mk text program args name => cases name <;> rfl

@[simp]
theorem smell_ofEntry (smell : CodeSmell) (entry : ToolEntry) :
    (ofEntry smell entry).smell = smell := by
  rw [ofEntry_eq]

@[simp]
theorem program_ofEntry (smell : CodeSmell) (entry : ToolEntry) :
    (ofEntry smell entry).program = entry.program := by
  rw [ofEntry_eq]

@[simp]
theorem args_ofEntry (smell : CodeSmell) (entry : ToolEntry) :
    (ofEntry smell entry).args = entry.args := by
  rw [ofEntry_eq]

end Tool

namespace ToolEntry

/-- Whether the text of an entry names a smell. -/
def isFor (smell : CodeSmell) (entry : ToolEntry) : Bool :=
  CodeSmell.ofText? entry.smell == some smell

/-- The tool of an entry is made for the smell that the entry names. -/
theorem of_tool?_eq_ok {entry : ToolEntry} {tool : Tool} (h : entry.tool? = .ok tool) :
    CodeSmell.ofText? entry.smell = some tool.smell ∧ tool = .ofEntry tool.smell entry := by
  rw [tool?, smell?] at h
  cases hsmell : CodeSmell.ofText? entry.smell with
  | none => simp [hsmell, Bind.bind, Except.bind] at h
  | some smell =>
      simp only [hsmell, Bind.bind, Except.bind] at h
      split at h
      · cases h
      · obtain rfl : Tool.ofEntry smell entry = tool := Except.ok.inj h
        rw [Tool.smell_ofEntry]
        exact ⟨rfl, rfl⟩

end ToolEntry

/-! ## Registering entries -/

namespace Registry

variable {σ : Type}

theorem addEntries_cons (launch : Launcher σ) (entry : ToolEntry) (entries : List ToolEntry)
    (r : Registry σ) :
    addEntries launch (entry :: entries) r =
      entry.tool?.bind fun tool =>
        if (r.find? tool.smell).isSome then .error (.repeatedSmell tool.smell)
        else addEntries launch entries (r.extend (tool.strategy launch)) := by
  rw [addEntries]
  cases entry.tool? with
  | error issue => rfl
  | ok tool =>
      have hregister : r.register (tool.strategy launch) =
          (r.find? tool.smell, r.extend (tool.strategy launch)) := rfl
      simp only [Bind.bind, Except.bind, hregister]
      cases r.find? tool.smell with
      | none => rfl
      | some strategy => rfl

/-- Entries that were registered: the first one is for a smell that had no strategy before, and its
tool stands under this smell when the others are registered. -/
theorem of_addEntries_cons {launch : Launcher σ} {entry : ToolEntry} {entries : List ToolEntry}
    {r r' : Registry σ} (h : addEntries launch (entry :: entries) r = .ok r') :
    ∃ (own : CodeSmell) (next : Registry σ),
      (∀ smell, entry.isFor smell = true ↔ smell = own) ∧ r.find? own = none ∧
      (∀ smell, next.find? smell =
        if smell = own then some ((Tool.ofEntry smell entry).strategy launch)
        else r.find? smell) ∧
      addEntries launch entries next = .ok r' := by
  rw [addEntries_cons] at h
  cases htool : entry.tool? with
  | error issue => simp [htool, Except.bind] at h
  | ok tool =>
      obtain ⟨hsmell, heq⟩ := ToolEntry.of_tool?_eq_ok htool
      simp only [htool, Except.bind] at h
      split at h
      · cases h
      · rename_i hfree
        refine ⟨tool.smell, _, ?_, by simpa using hfree, ?_, h⟩
        · intro smell
          rw [ToolEntry.isFor, hsmell, beq_iff_eq, Option.some.injEq, eq_comm]
        · intro smell
          rw [find?_extend]
          change (if smell = tool.smell then _ else _) = _
          -- under its own smell the tool is the one that its entry makes
          split
          · rename_i hsame
            rw [hsame, ← heq]
          · rfl

/-- Registered entries name smells that had no strategy before, each smell in one entry at most. -/
theorem filter_isFor_of_addEntries {launch : Launcher σ} {entries : List ToolEntry}
    {r r' : Registry σ} (h : addEntries launch entries r = .ok r') (smell : CodeSmell) :
    entries.filter (ToolEntry.isFor smell) =
      if (r.find? smell).isSome then [] else (entries.find? (ToolEntry.isFor smell)).toList := by
  induction entries generalizing r with
  | nil => simp
  | cons entry entries ih =>
      obtain ⟨own, next, hfor, hfree, hnext, hrest⟩ := of_addEntries_cons h
      rw [List.filter_cons, List.find?_cons, ih hrest, hnext]
      -- the smell of the first entry is taken from here on, so no other entry names it
      by_cases hsame : smell = own
      · rw [(hfor smell).2 hsame, if_pos hsame, hsame, hfree]
        rfl
      · rw [Bool.eq_false_iff.2 (mt (hfor smell).1 hsame), if_neg hsame]
        rfl

/-- A smell has the strategy that it had before, or else the tool of the entry that names it. -/
theorem find?_of_addEntries {launch : Launcher σ} {entries : List ToolEntry} {r r' : Registry σ}
    (h : addEntries launch entries r = .ok r') (smell : CodeSmell) :
    r'.find? smell =
      (r.find? smell).or ((entries.find? (ToolEntry.isFor smell)).map fun entry =>
        (Tool.ofEntry smell entry).strategy launch) := by
  induction entries generalizing r with
  | nil =>
      obtain rfl : r = r' := Except.ok.inj h
      simp
  | cons entry entries ih =>
      obtain ⟨own, next, hfor, hfree, hnext, hrest⟩ := of_addEntries_cons h
      rw [ih hrest, List.find?_cons, hnext]
      by_cases hsame : smell = own
      · rw [(hfor smell).2 hsame, if_pos hsame, hsame, hfree]
        rfl
      · rw [Bool.eq_false_iff.2 (mt (hfor smell).1 hsame), if_neg hsame]

/-- Whether entries can be registered depends on the smells that are taken, not on the launcher. -/
theorem addEntries_map_unit {σ' : Type} (launch : Launcher σ) (launch' : Launcher σ')
    (entries : List ToolEntry) {r : Registry σ} {r' : Registry σ'}
    (h : ∀ smell, (r.find? smell).isSome = (r'.find? smell).isSome) :
    (addEntries launch entries r).map (fun _ => ()) =
      (addEntries launch' entries r').map fun _ => () := by
  induction entries generalizing r r' with
  | nil => rfl
  | cons entry entries ih =>
      rw [addEntries_cons, addEntries_cons]
      cases entry.tool? with
      | error issue => rfl
      | ok tool =>
          simp only [Except.bind, h tool.smell]
          split
          · rfl
          · apply ih
            intro smell
            rw [find?_extend, find?_extend, Tool.strategy, Tool.strategy]
            split
            · rfl
            · exact h smell

end Registry

/-! ## The registry of a configuration -/

namespace Configuration

variable {σ : Type}

/-- The first entry that names a smell. -/
def entryFor? (c : Configuration) (smell : CodeSmell) : Option ToolEntry :=
  c.strategies.find? (ToolEntry.isFor smell)

/-- The check of a configuration tells how building its registry ends, for every launcher. -/
theorem check_eq (c : Configuration) (launch : Launcher σ) :
    c.check = (c.registry launch).map fun _ => () :=
  Registry.addEntries_map_unit _ launch c.strategies fun _ => rfl

theorem exists_registry {c : Configuration} (h : c.check = .ok ()) (launch : Launcher σ) :
    ∃ r, c.registry launch = .ok r := by
  rw [c.check_eq launch] at h
  cases hregistry : c.registry launch with
  | error issue => simp [hregistry, Except.map] at h
  | ok r => exact ⟨r, rfl⟩

theorem registry_eq_error {c : Configuration} {issue : Config.EntryIssue}
    (h : c.check = .error issue) (launch : Launcher σ) : c.registry launch = .error issue := by
  rw [c.check_eq launch] at h
  cases hregistry : c.registry launch with
  | error other => simpa [hregistry, Except.map] using h
  | ok r => simp [hregistry, Except.map] at h

/-- The entry for a smell is the only one that names it. -/
theorem filter_isFor {c : Configuration} (h : c.check = .ok ()) (smell : CodeSmell) :
    c.strategies.filter (ToolEntry.isFor smell) = (c.entryFor? smell).toList := by
  let still : Launcher Unit := fun _ _ world => (.error .notFound, world)
  obtain ⟨r, hr⟩ := exists_registry h still
  exact Registry.filter_isFor_of_addEntries hr smell

/-- The strategy for a smell is the tool of the entry for it. -/
theorem find?_registry {c : Configuration} {launch : Launcher σ} {r : Registry σ}
    (h : c.registry launch = .ok r) (smell : CodeSmell) :
    r.find? smell =
      (c.entryFor? smell).map fun entry => (Tool.ofEntry smell entry).strategy launch := by
  rw [Registry.find?_of_addEntries h, entryFor?]
  rfl

theorem of_find?_registry {c : Configuration} {launch : Launcher σ} {r : Registry σ}
    (h : c.registry launch = .ok r) {smell : CodeSmell} {strategy : Strategy σ}
    (hfind : r.find? smell = some strategy) :
    ∃ entry, c.entryFor? smell = some entry ∧
      (Tool.ofEntry smell entry).strategy launch = strategy := by
  rw [find?_registry h] at hfind
  exact Option.map_eq_some_iff.1 hfind

end Configuration

end SmellRefactor

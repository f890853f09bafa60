import SmellRefactor.Proofs.Run.Treatment

/-!
# Runs with given verdicts

Where the end of an attempt depends on nothing but the smell, the path and the method, the whole
run is determined without running it.  This module describes each attempt of a method by the smells
that were resolved before it, and shows that a sequential run on a file makes exactly these
attempts, leaves exactly the smells that they do not resolve, and lists exactly those that fail.
-/

namespace SmellRefactor

variable {σ : Type}

/-- How attempts end, as far as this depends on the smell, the path and the method alone. -/
abbrev Verdicts := CodeSmell → Path → Method → Outcome

/-- Whether all attempts of the strategies of a registry end as the verdicts say. -/
def Registry.Follows (r : Registry σ) (v : Verdicts) : Prop :=
  ∀ smell strategy, r.find? smell = some strategy →
    ∀ path m world, (strategy.attempt path m world).outcome = v smell path m

/-! ## The described run -/

/-- The smells among a list that are resolved when they are tried in this order. -/
def Verdicts.resolvedAmong (v : Verdicts) (path : Path) (m : Method) (smells : List CodeSmell) :
    List CodeSmell :=
  smells.foldl
    (fun gone smell =>
      if (v smell path (m.without gone)).isResolved then gone ++ [smell] else gone) []

namespace Registry

/-- The smells that a method carries and that have a strategy, in the order of all smells. -/
def agenda (r : Registry σ) (m : Method) : List CodeSmell :=
  CodeSmell.all.filter fun smell => (r.find? smell).isSome && m.carries smell

/-- The method as it is passed to the attempt for a smell. -/
def passed (r : Registry σ) (v : Verdicts) (path : Path) (m : Method) (smell : CodeSmell) :
    Method :=
  m.without (v.resolvedAmong path m ((r.agenda m).takeWhile (· ≠ smell)))

@[simp]
theorem name_passed (r : Registry σ) (v : Verdicts) (path : Path) (m : Method)
    (smell : CodeSmell) : (r.passed v path m smell).name = m.name := rfl

/-- The attempt for a smell, if the smell has a strategy. -/
def expectedFor (r : Registry σ) (v : Verdicts) (path : Path) (m : Method) (smell : CodeSmell) :
    Option Attempt :=
  (r.find? smell).map fun strategy =>
    ⟨path, r.passed v path m smell, smell, strategy.name, v smell path (r.passed v path m smell)⟩

/-- The attempts on a method, in order. -/
def expected (r : Registry σ) (v : Verdicts) (path : Path) (m : Method) : List Attempt :=
  (r.agenda m).filterMap (r.expectedFor v path m)

/-- The complete treatment of a method, as the verdicts determine it. -/
def described (r : Registry σ) (v : Verdicts) (path : Path) (m : Method) : Treatment where
  given := m
  attempts := r.expected v path m
  left := m.without ((r.agenda m).filter fun smell =>
    (v smell path (r.passed v path m smell)).isResolved)

/-- The attempts on the methods of some files, file after file. -/
def expectedAll (r : Registry σ) (v : Verdicts) (files : List (Path × List Method)) :
    List Attempt :=
  files.flatMap fun file => file.2.flatMap (r.expected v file.1)

theorem path_of_mem_expected {r : Registry σ} {v : Verdicts} {path : Path} {m : Method}
    {a : Attempt} (h : a ∈ r.expected v path m) : a.path = path := by
  obtain ⟨smell, -, hsmell⟩ := List.mem_filterMap.1 h
  obtain ⟨strategy, -, rfl⟩ := Option.map_eq_some_iff.1 hsmell
  rfl

theorem path_of_mem_flatMap_expected {r : Registry σ} {v : Verdicts} {path : Path}
    {methods : List Method} {a : Attempt} (h : a ∈ methods.flatMap (r.expected v path)) :
    a.path = path := by
  obtain ⟨m, -, hm⟩ := List.mem_flatMap.1 h
  exact path_of_mem_expected hm

theorem eligible_eq_agenda (r : Registry σ) (m : Method) : r.eligible m = r.agenda m := by
  have hall : CodeSmell.all.Pairwise fun a b => compare a b = .lt := by decide
  apply eq_of_pairwise_of_mem_iff (fun _ _ => not_lt_of_compare_eq_lt) (r.eligible_pairwise m)
    (hall.filter _)
  intro smell
  simp [mem_eligible]

theorem agenda_nodup (r : Registry σ) (m : Method) : (r.agenda m).Nodup :=
  r.eligible_eq_agenda m ▸ r.eligible_nodup m

theorem filter_agenda (r : Registry σ) (m : Method) (smell : CodeSmell) :
    (r.agenda m).filter (fun s => decide (s = smell)) =
      if smell ∈ r.agenda m then [smell] else [] := by
  rw [List.filter_eq, (r.agenda_nodup m).count]
  split <;> rfl

end Registry

theorem Verdicts.resolvedAmong_append_singleton (v : Verdicts) (path : Path) (m : Method)
    (smells : List CodeSmell) (smell : CodeSmell) :
    v.resolvedAmong path m (smells ++ [smell]) =
      if (v smell path (m.without (v.resolvedAmong path m smells))).isResolved then
        v.resolvedAmong path m smells ++ [smell]
      else v.resolvedAmong path m smells := by
  rw [resolvedAmong, List.foldl_append]
  rfl

namespace Registry

/-- The smells before a smell of the agenda are those in front of it. -/
theorem takeWhile_agenda {r : Registry σ} {m : Method} {front back : List CodeSmell}
    {smell : CodeSmell} (h : r.agenda m = front ++ smell :: back) :
    (r.agenda m).takeWhile (· ≠ smell) = front := by
  have hnodup := r.agenda_nodup m
  rw [h] at hnodup ⊢
  have hfront : ∀ s ∈ front, s ≠ smell := by
    intro s hs
    exact (List.nodup_append.1 hnodup).2.2 s hs smell (by simp)
  rw [List.takeWhile_append_of_pos (by simpa using hfront)]
  simp

/-- In any front part of the agenda, the resolved smells are those whose own attempt resolves
them. -/
theorem resolvedAmong_eq_filter (r : Registry σ) (v : Verdicts) (path : Path) (m : Method)
    {front back : List CodeSmell} (h : r.agenda m = front ++ back) :
    v.resolvedAmong path m front =
      front.filter fun smell => (v smell path (r.passed v path m smell)).isResolved := by
  induction front using List.reverseRecOn generalizing back with
  | nil => rfl
  | append_singleton front smell ih =>
      rw [List.append_assoc, List.singleton_append] at h
      have hpassed : r.passed v path m smell = m.without (v.resolvedAmong path m front) := by
        rw [passed, takeWhile_agenda h]
      rw [Verdicts.resolvedAmong_append_singleton, ← hpassed, ih h, List.filter_append]
      split <;> simp_all

/-- The method is passed without exactly those smells in front whose own attempt resolves them. -/
theorem passed_eq (r : Registry σ) (v : Verdicts) (path : Path) (m : Method) (smell : CodeSmell) :
    r.passed v path m smell =
      m.without (((r.agenda m).takeWhile (· ≠ smell)).filter fun s =>
        (v s path (r.passed v path m s)).isResolved) := by
  have hsplit := (List.takeWhile_append_dropWhile (p := (· ≠ smell)) (l := r.agenda m)).symm
  rw [passed, r.resolvedAmong_eq_filter v path m hsplit]

end Registry

/-! ## Treatments that follow verdicts -/

namespace Treatment

variable {r : Registry σ} {v : Verdicts} {path : Path} {t : Treatment}

theorem MadeBy.resolvedBy_eq (h : t.MadeBy r path) (hv : r.Follows v) :
    resolvedBy t.attempts = v.resolvedAmong path t.given t.tried := by
  induction h with
  | start m => rfl
  | @enter t smell strategy ht hfind world ih =>
      have hout : (strategy.attempt path t.left world).outcome =
          v smell path (t.given.without (v.resolvedAmong path t.given t.tried)) := by
        rw [hv smell strategy hfind, ht.left_eq, ih]
      rw [given_enter, tried_enter, Strategy.tryOn, Verdicts.resolvedAmong_append_singleton,
        ← hout, ← ih, attempts_enter, resolvedBy, List.filter_append, List.map_append,
        ← resolvedBy]
      split <;> simp_all

/-- Along the agenda of its method a treatment makes the described attempts. -/
theorem MadeBy.attempts_eq (h : t.MadeBy r path) (hv : r.Follows v) {back : List CodeSmell}
    (hagenda : r.agenda t.given = t.tried ++ back) :
    t.attempts = t.tried.filterMap (r.expectedFor v path t.given) := by
  induction h generalizing back with
  | start m => rfl
  | @enter t smell strategy ht hfind world ih =>
      have hfront : r.agenda t.given = t.tried ++ smell :: back := by
        simpa [Strategy.tryOn] using hagenda
      have hpassed : r.passed v path t.given smell = t.left := by
        rw [Registry.passed, Registry.takeWhile_agenda hfront, ← ht.resolvedBy_eq hv, ← ht.left_eq]
      have hexpected : r.expectedFor v path t.given smell =
          some (strategy.tryOn smell path t.left world) := by
        rw [Registry.expectedFor, hfind, Option.map_some, hpassed, Strategy.tryOn,
          hv smell strategy hfind]
      rw [attempts_enter, given_enter, tried_enter, List.filterMap_append, ← ih hfront]
      simp [Strategy.tryOn, hexpected]

/-- A complete treatment makes exactly the described attempts. -/
theorem Complete.attempts_eq (h : t.Complete r path) (hv : r.Follows v) :
    t.attempts = r.expected v path t.given := by
  have htried : t.tried = r.agenda t.given := h.tried_eq.trans (r.eligible_eq_agenda t.given)
  have hall : r.agenda t.given = t.tried ++ [] := by rw [htried, List.append_nil]
  rw [h.madeBy.attempts_eq hv hall, htried, Registry.expected]

/-- A complete treatment leaves the smells that their attempts do not resolve. -/
theorem Complete.left_eq (h : t.Complete r path) (hv : r.Follows v) :
    t.left = t.given.without ((r.agenda t.given).filter fun smell =>
      (v smell path (r.passed v path t.given smell)).isResolved) := by
  have htried : t.tried = r.agenda t.given := h.tried_eq.trans (r.eligible_eq_agenda t.given)
  have hall : r.agenda t.given = r.agenda t.given ++ [] := (List.append_nil _).symm
  rw [h.madeBy.left_eq, h.madeBy.resolvedBy_eq hv, htried,
    r.resolvedAmong_eq_filter v path t.given hall]

/-- The verdicts determine a complete treatment. -/
theorem Complete.eq_described (h : t.Complete r path) (hv : r.Follows v) :
    t = r.described v path t.given := by
  rw [Registry.described, ← h.attempts_eq hv, ← h.left_eq hv]

end Treatment

namespace Casebook

/-- The verdicts determine the treatments of all files. -/
theorem Complete.eq_described {r : Registry σ} {v : Verdicts} {book : Casebook}
    (h : book.Complete r) (hv : r.Follows v) :
    book = book.given.map fun file => (file.1, file.2.map (r.described v file.1)) := by
  have hfile : ∀ file ∈ book,
      (file.1, (file.2.map Treatment.given).map (r.described v file.1)) = file := by
    intro file hmem
    have hdescribed : file.2.map (r.described v file.1 ∘ Treatment.given) = file.2.map id :=
      List.map_congr_left fun t ht => ((h file hmem t ht).eq_described hv).symm
    rw [List.map_map, hdescribed, List.map_id]
  rw [given, List.map_map]
  exact ((List.map_congr_left hfile).trans (List.map_id book)).symm

theorem Complete.attempts_eq {r : Registry σ} {v : Verdicts} {book : Casebook}
    (h : book.Complete r) (hv : r.Follows v) : book.attempts = r.expectedAll v book.given := by
  conv_lhs => rw [h.eq_described hv]
  simp only [attempts, List.flatMap_map]
  rfl

theorem Complete.left_eq {r : Registry σ} {v : Verdicts} {book : Casebook}
    (h : book.Complete r) (hv : r.Follows v) :
    book.left = book.given.map fun file =>
      (file.1, file.2.map fun m => (r.described v file.1 m).left) := by
  conv_lhs => rw [h.eq_described hv]
  simp only [left, List.map_map, Function.comp_def]

end Casebook

/-! ## Runs that follow verdicts -/

namespace Refactoring

open FailureIndex

/-- A run on one file, as the verdicts determine it. -/
theorem refactor_described (r : Refactoring σ) {v : Verdicts} (hv : r.registry.Follows v)
    {path : Path} (hpath : path.isEmpty = false) (methods : List Method) (world : σ) :
    (r.refactor path methods world).answer =
        .ok (ofRecords (failuresOf (methods.flatMap (r.registry.expected v path)))) ∧
      (r.refactor path methods world).left =
        methods.map (fun m => (r.registry.described v path m).left) ∧
      (r.refactor path methods world).attempts = methods.flatMap (r.registry.expected v path) := by
  obtain ⟨treatments, hcomplete, hgiven, hanswer, hleft, hattempts⟩ :=
    r.refactor_treatments hpath methods world
  have hexpected : treatments.flatMap Treatment.attempts =
      methods.flatMap (r.registry.expected v path) := by
    rw [← hgiven, List.flatMap_map]
    exact List.flatMap_congr fun t ht => (hcomplete t ht).attempts_eq hv
  refine ⟨?_, ?_, hattempts.trans hexpected⟩
  · rw [hanswer, hexpected]
  · rw [hleft, ← hgiven, List.map_map]
    exact List.map_congr_left fun t ht => (hcomplete t ht).left_eq hv

/-- A run on a workload, as the verdicts determine it. -/
theorem refactorAll_described (r : Refactoring σ) {v : Verdicts} (hv : r.registry.Follows v)
    {w : Workload} (hw : ∀ file ∈ w.files, file.1.isEmpty = false) (world : σ) :
    (r.refactorAll w world).answer =
        .ok (ofRecords (failuresOf (r.registry.expectedAll v w.files))) ∧
      (r.refactorAll w world).left.files = w.files.map fun file =>
        (file.1, file.2.map fun m => (r.registry.described v file.1 m).left) := by
  obtain ⟨book, hcomplete, hgiven, hanswer, hleft, -⟩ := r.refactorAll_casebook hw world
  constructor
  · rw [hanswer, hcomplete.attempts_eq hv, hgiven]
  · rw [hleft, hcomplete.left_eq hv, hgiven]

/-- A run on a workload makes the attempts that the verdicts determine. -/
theorem refactorAll_attempts (r : Refactoring σ) {v : Verdicts} (hv : r.registry.Follows v)
    {w : Workload} (hw : ∀ file ∈ w.files, file.1.isEmpty = false) (world : σ) :
    (r.refactorAll w world).attempts = r.registry.expectedAll v w.files := by
  obtain ⟨book, hcomplete, hgiven, -, -, hattempts⟩ := r.refactorAll_casebook hw world
  rw [hattempts, hcomplete.attempts_eq hv, hgiven]

end Refactoring

/-! ## Registries made from verdicts -/

/-- A strategy that ends as the verdicts say and leaves the world alone. -/
def Verdicts.strategy (v : Verdicts) (smell : CodeSmell) : Strategy σ where
  smell := smell
  name := smell.label
  attempt := fun path m world => ⟨v smell path m, [], world⟩

/-- The registry of such strategies for some smells. -/
def Verdicts.registry (v : Verdicts) (smells : List CodeSmell) : Registry σ :=
  .ofList (smells.map v.strategy)

/-- Any verdicts are those of a registry for any smells. -/
theorem Verdicts.registry_follows (v : Verdicts) (smells : List CodeSmell) :
    (v.registry smells : Registry σ).Follows v := by
  intro smell strategy h path m world
  obtain ⟨hmem, hsmell⟩ := Registry.of_find?_ofList h
  obtain ⟨own, -, rfl⟩ := List.mem_map.1 hmem
  obtain rfl : own = smell := hsmell
  rfl

/-! ## The run on one file -/

/-- A list, or nothing in place of an empty one. -/
def someIfAny {α : Type} (xs : List α) : Option (List α) := if xs.isEmpty then none else some xs

theorem FailureIndex.map_snd_listing (records : List FailureIndex.Record) :
    (FailureIndex.listing records).map Prod.snd =
      someIfAny (records.map FailureIndex.Record.method) := by
  cases records <;> rfl

/-- What an index of failed attempts at one path lists for a smell. -/
theorem find?_ofRecords_failuresOf {attempts : List Attempt} {path : Path}
    (hpath : ∀ a ∈ attempts, a.path = path) (smell : CodeSmell) :
    (FailureIndex.ofRecords (failuresOf attempts)).find? smell.name path =
      someIfAny (((failedAmong attempts).filter fun a => a.smell = smell).map Attempt.method) := by
  rw [FailureIndex.find?_ofRecords, filter_failuresOf_at hpath Std.ReflCmp.compare_self,
    FailureIndex.map_snd_listing, List.map_map]
  rfl

/-- A sequential run on a file whose path is not empty makes the described attempts, method after
method, and succeeds; it leaves each method without the smells that its own attempts resolve, and
its index lists for each smell the methods passed to the attempts that do not resolve it, under the
given path and nowhere else. -/
theorem refactor_eq_reference (r : Refactoring σ) {v : Verdicts} (hv : r.registry.Follows v)
    {path : Path} (hpath : path.isEmpty = false) (methods : List Method) (world : σ) :
    ∃ index : FailureIndex,
      (r.refactor path methods world).answer = .ok index ∧
      (r.refactor path methods world).attempts =
        methods.flatMap (r.registry.expected v path) ∧
      (∀ m smell, r.registry.passed v path m smell =
        m.without (((r.registry.agenda m).takeWhile (· ≠ smell)).filter fun s =>
          (v s path (r.registry.passed v path m s)).isResolved)) ∧
      (r.refactor path methods world).left =
        methods.map (fun m => m.without ((r.registry.agenda m).filter fun s =>
          (v s path (r.registry.passed v path m s)).isResolved)) ∧
      (∀ smell, index.find? smell.name path =
        someIfAny (((methods.flatMap (r.registry.expected v path)).filter fun a =>
          a.smell = smell && !a.outcome.isResolved).map Attempt.method)) ∧
      (∀ name failed, index.table.find? name = some failed →
        (∃ smell, CodeSmell.name smell = name) ∧ failed.keys = [path]) := by
  obtain ⟨hanswer, hleft, hattempts⟩ := r.refactor_described hv hpath methods world
  have hpaths : ∀ a ∈ methods.flatMap (r.registry.expected v path), a.path = path := by
    intro a ha
    obtain ⟨m, -, hm⟩ := List.mem_flatMap.1 ha
    exact Registry.path_of_mem_expected hm
  refine ⟨_, hanswer, hattempts, r.registry.passed_eq v path, hleft, ?_, ?_⟩
  · intro smell
    rw [find?_ofRecords_failuresOf hpaths, failedAmong, List.filter_filter]
  · intro name failed hfind
    have hrecords : ∀ record ∈ failuresOf (methods.flatMap (r.registry.expected v path)),
        record.path = path := by
      intro record hrecord
      obtain ⟨a, ha, rfl⟩ := List.mem_map.1 hrecord
      exact hpaths a (List.mem_of_mem_filter ha)
    obtain ⟨⟨record, -, hname⟩, hkeys⟩ :=
      FailureIndex.keys_of_find?_ofRecords hrecords hfind
    exact ⟨⟨record.smell, hname⟩, hkeys⟩

/-- Long methods are resolved, data clumps only once the method is no longer long, and attempts on
deep nesting break down. -/
def pickyVerdicts : Verdicts
  | .longMethod, _, _ => .resolved
  | .dataClump, _, m => if m.carries .longMethod then .unresolved else .resolved
  | .deepNesting, _, _ => .fault (.panic none)
  | _, _, _ => .unresolved

theorem refactor_eq_reference_picky :
    let r : Refactoring Unit :=
      ⟨pickyVerdicts.registry [.deepNesting, .dataClump, .longMethod], .standard⟩
    let draw : Method :=
      ⟨"draw", [.deepNesting, .longMethod, .largeClass, .dataClump, .longMethod, .deepNesting]⟩
    (r.registry.Follows pickyVerdicts ∧ Path.isEmpty ⟨"a.java"⟩ = false) ∧
      (r.refactor ⟨"a.java"⟩ [draw] ()).left =
        [⟨"draw", [.deepNesting, .largeClass, .deepNesting]⟩] ∧
      (r.refactor ⟨"a.java"⟩ [draw] ()).attempts.map (fun a => (a.smell, a.method.smells)) =
        [(.longMethod, draw.smells),
          (.dataClump, [.deepNesting, .largeClass, .dataClump, .deepNesting]),
          (.deepNesting, [.deepNesting, .largeClass, .deepNesting])] ∧
      ∃ index : FailureIndex, (r.refactor ⟨"a.java"⟩ [draw] ()).answer = .ok index ∧
        index.find? "Deep Nesting" ⟨"a.java"⟩ =
          some [⟨"draw", [.deepNesting, .largeClass, .deepNesting]⟩] ∧
        index.find? "Long Method" ⟨"a.java"⟩ = none := by
  intro r draw
  have hfollows : r.registry.Follows pickyVerdicts := pickyVerdicts.registry_follows _
  have hpath : Path.isEmpty ⟨"a.java"⟩ = false := by decide
  obtain ⟨index, hanswer, hattempts, -, hleft, hfind, -⟩ :=
    refactor_eq_reference r hfollows hpath [draw] ()
  refine ⟨⟨hfollows, hpath⟩, ?_, ?_, index, hanswer, ?_, ?_⟩
  · rw [hleft]
    decide
  · rw [hattempts]
    decide
  · exact (hfind .deepNesting).trans (by decide)
  · exact (hfind .longMethod).trans (by decide)

end SmellRefactor

import SmellRefactor.Proofs.Failure.Recording
import SmellRefactor.Proofs.Progress

/-!
# Recording at the same time is recording one after another

However the steps of concurrent calls follow each other, lists only grow at their ends, no call
waits for ever, and when all calls are done the builder is what the same calls make of it one after
another, in the order in which they appended.
-/

namespace SmellRefactor

namespace FailureIndex

namespace Recording

/-! ## The invariant -/

/-- Whether two calls do not both hold the guard of one smell name. -/
def Apart (c c' : Call) : Prop :=
  c.stage.holdsName = true → c'.stage.holdsName = true → c.name ≠ c'.name

/-- A state of some calls on a builder, where those in the log have appended, in this order.  Under
each smell name stands what the log makes of it, up to the work of the call that holds the name. -/
structure Sound (b : Builder) (log : List Record) (s : Recording) : Prop where
  logged : log.Perm ((s.calls.filter fun c => c.stage.hasWritten).map Call.record)
  exclusive : s.calls.Pairwise Apart
  held : ∀ c ∈ s.calls, c.stage.holdsName = true →
    s.builder.table.find? c.name =
      c.stage.content c.record.path ((b.recordAll log).table.find? c.name)
  free : ∀ name, NameFree s.calls name →
    s.builder.table.find? name = (b.recordAll log).table.find? name
  sawRight : ∀ c ∈ s.calls, c.SawRight s.builder

theorem opening_sound (b : Builder) (records : List Record) : (opening b records).Sound b [] := by
  have hwaiting : ∀ c ∈ (opening b records).calls, c.stage = .waiting := by
    intro c hc
    obtain ⟨r, -, rfl⟩ := List.mem_map.1 hc
    rfl
  constructor
  · have hnone : ((opening b records).calls.filter fun c => c.stage.hasWritten) = [] := by
      rw [List.filter_eq_nil_iff]
      intro c hc
      simp [hwaiting c hc, Stage.hasWritten]
    rw [hnone]
    exact .refl _
  · apply List.Pairwise.imp_of_mem _ (List.pairwise_of_forall fun _ _ => trivial)
    intro c c' hc _ _ hholds
    simp [hwaiting c hc, Stage.holdsName] at hholds
  · intro c hc hholds
    simp [hwaiting c hc, Stage.holdsName] at hholds
  · intro name _
    rfl
  · intro c hc
    rw [Call.SawRight, hwaiting c hc]
    trivial

theorem apart_symm {c c' : Call} (h : Apart c c') : Apart c' c :=
  fun hc' hc heq => h hc hc' heq.symm

variable {before after : List Call} {c c' : Call}

theorem nameFree_middle {name : String} :
    NameFree (before ++ c :: after) name ↔
      (c.stage.holdsName = true → c.name ≠ name) ∧ NameFree (before ++ after) name := by
  simp only [NameFree, List.mem_append, List.mem_cons]
  constructor
  · intro h
    exact ⟨h c (.inr (.inl rfl)), fun d hd => h d (hd.imp_right .inr)⟩
  · rintro ⟨hc, hrest⟩ d (hd | rfl | hd)
    · exact hrest d (.inl hd)
    · exact hc
    · exact hrest d (.inr hd)

theorem pairwise_apart_middle :
    (before ++ c :: after).Pairwise Apart ↔
      (c.stage.holdsName = true → NameFree (before ++ after) c.name) ∧
        (before ++ after).Pairwise Apart := by
  rw [List.pairwise_middle apart_symm, List.pairwise_cons]
  refine and_congr_left fun _ => ?_
  constructor
  · intro h hc d hd hholds heq
    exact h d hd hc hholds heq.symm
  · intro h d hd hc hholds heq
    exact h hc d hd hholds heq.symm

/-- A call that makes a step is alone with its smell name. -/
theorem nameFree_of_step {b b' : Builder} (h : Call.Step (before ++ after) b c b' c')
    (hexclusive : (before ++ c :: after).Pairwise Apart) :
    NameFree (before ++ after) c.name := by
  have hholder := (pairwise_apart_middle.1 hexclusive).1
  cases h with
  | takeName hfree _ => exact hfree
  | _ => exact hholder rfl

/-- Where no other call holds the smell name of a call, its own stage says what stands there. -/
theorem Sound.content {b b₁ : Builder} {log : List Record}
    (h : Sound b log ⟨b₁, before ++ c :: after⟩) (hfree : NameFree (before ++ after) c.name) :
    b₁.table.find? c.name =
      c.stage.content c.record.path ((b.recordAll log).table.find? c.name) := by
  cases hholds : c.stage.holdsName with
  | true => exact h.held c (by simp) hholds
  | false =>
      rw [Stage.content_of_not_holdsName hholds]
      apply h.free
      rw [nameFree_middle]
      exact ⟨by simp [hholds], hfree⟩

/-- The log after a step of a call: as before, or longer by the record of this call. -/
theorem Sound.exists_log {b b₁ b₁' : Builder} {log : List Record}
    (h : Sound b log ⟨b₁, before ++ c :: after⟩) {settled' : Option FailedMethods}
    (hrecord : c'.record = c.record)
    (heffect : Call.Effect b₁ c b₁' c' ((b.recordAll log).table.find? c.name) settled') :
    ∃ log' : List Record,
      log'.Perm (((before ++ c' :: after).filter fun d => d.stage.hasWritten).map Call.record) ∧
      (b.recordAll log').table.find? c.name = settled' ∧
      ∀ name, name ≠ c.name →
        (b.recordAll log').table.find? name = (b.recordAll log).table.find? name := by
  have hlogged := h.logged
  rcases heffect.settles with ⟨hwritten, rfl⟩ | ⟨hbefore, hnow, rfl⟩
  · refine ⟨log, ?_, rfl, fun _ _ => rfl⟩
    simpa [List.filter_cons, hwritten, hrecord, apply_ite] using hlogged
  · refine ⟨log ++ [c.record], ?_, ?_, ?_⟩
    · simp only [List.filter_append, List.filter_cons, hbefore, hnow, Bool.false_eq_true, if_false,
        if_true, List.map_append, List.map_cons, hrecord] at hlogged ⊢
      refine (hlogged.append_right _).trans ?_
      rw [List.append_assoc]
      exact (List.perm_append_singleton _ _).append_left _
    · rw [Builder.recordAll_append]
      exact (Builder.find?_table_record _ _ _).trans (if_pos rfl)
    · intro name hname
      rw [Builder.recordAll_append]
      exact (Builder.find?_table_record _ _ _).trans (if_neg hname)

/-- A step of one call keeps the invariant, perhaps with one more record in the log. -/
theorem Sound.step {b : Builder} {log : List Record} {s s' : Recording} (h : Sound b log s)
    (hstep : Step s s') :
    (∃ log', Sound b log' s') ∧ s'.calls.map Call.record = s.calls.map Call.record ∧
      s.builder.GrowsTo s'.builder := by
  cases hstep with
  | @advance before after c c' b₁ b₁' hcall =>
      have hfree := nameFree_of_step hcall h.exclusive
      obtain ⟨settled', heffect⟩ :=
        hcall.exists_effect (h.content hfree) (h.sawRight c (by simp))
      obtain ⟨log', hlogged, hsettled, hothers⟩ := h.exists_log hcall.record_eq heffect
      have hname : c'.name = c.name := hcall.name_eq
      have hother : ∀ d ∈ before ++ after, d.stage.holdsName = true → d.name ≠ c.name := hfree
      have hmem : ∀ d ∈ before ++ after, d ∈ before ++ c :: after := by
        intro d hd
        rcases List.mem_append.1 hd with hd | hd <;> simp [hd]
      have hcases : ∀ d ∈ before ++ c' :: after, d = c' ∨ d ∈ before ++ after := by
        intro d hd
        simpa [or_left_comm] using hd
      refine ⟨⟨log', hlogged, ?_, ?_, ?_, ?_⟩, ?_, heffect.grows⟩
      · rw [pairwise_apart_middle, hname]
        exact ⟨fun _ => hfree, (pairwise_apart_middle.1 h.exclusive).2⟩
      · intro d hd hholds
        rcases hcases d hd with rfl | hd
        · rw [hname, hcall.record_eq, hsettled]
          exact heffect.content
        · rw [heffect.elsewhere _ (hother d hd hholds), hothers _ (hother d hd hholds)]
          exact h.held d (hmem d hd) hholds
      · intro name hnamefree
        obtain ⟨hholder, hrest⟩ := nameFree_middle.1 hnamefree
        by_cases heq : name = c.name
        · subst heq
          have hgave : c'.stage.holdsName = false := by
            rw [← Bool.not_eq_true]
            exact fun hholds => hholder hholds hname
          rw [hsettled, ← Stage.content_of_not_holdsName hgave c.record.path settled']
          exact heffect.content
        · rw [heffect.elsewhere name heq, hothers name heq]
          apply h.free
          exact nameFree_middle.2 ⟨fun _ => Ne.symm heq, hrest⟩
      · intro d hd
        rcases hcases d hd with rfl | hd
        · exact heffect.sawRight
        · exact (h.sawRight d (hmem d hd)).congr fun hholds =>
            heffect.elsewhere _ (hother d hd hholds)
      · simp [hcall.record_eq]

/-- Every state that some calls reach is sound for a log of theirs. -/
theorem sound_of_reachable {b : Builder} {records : List Record} {s : Recording}
    (h : Relation.ReflTransGen Step (opening b records) s) :
    (∃ log, Sound b log s) ∧ s.calls.map Call.record = records := by
  induction h with
  | refl => exact ⟨⟨[], opening_sound b records⟩, by simp [opening, Function.comp_def]⟩
  | tail _ hstep ih =>
      obtain ⟨⟨log, hsound⟩, hrecords⟩ := ih
      obtain ⟨hsound', hsame, -⟩ := hsound.step hstep
      exact ⟨hsound', hsame.trans hrecords⟩

/-- From a sound state on, lists only grow. -/
theorem Sound.growsTo {b : Builder} {log : List Record} {s s' : Recording} (h : Sound b log s)
    (hrun : Relation.ReflTransGen Step s s') : s.builder.GrowsTo s'.builder := by
  induction hrun using Relation.ReflTransGen.head_induction_on generalizing log with
  | refl => exact .refl _
  | head hstep _ ih =>
      obtain ⟨⟨log', hsound⟩, -, hgrows⟩ := h.step hstep
      exact hgrows.trans (ih hsound)

/-! ## Progress -/

/-- The number of steps that all calls have left. -/
def stepsLeft (s : Recording) : Nat := tally (fun c => c.stage.stepsLeft) s.calls

theorem Step.stepsLeft_lt {s s' : Recording} (h : Step s s') : s'.stepsLeft < s.stepsLeft := by
  cases h with
  | advance hcall => cases hcall <;> simp [stepsLeft, Stage.stepsLeft]

/-- The call that holds the guard of its smell name can always go on. -/
theorem Sound.exists_step_of_holdsName {b : Builder} {log : List Record} {s : Recording}
    (h : Sound b log s) {c : Call} (hc : c ∈ s.calls) (hholds : c.stage.holdsName = true) :
    ∃ s', Step s s' := by
  obtain ⟨b₁, calls⟩ := s
  obtain ⟨before, after, rfl⟩ := List.append_of_mem hc
  have hfree := (pairwise_apart_middle.1 h.exclusive).1 hholds
  have hcontent := h.content hfree
  obtain ⟨r, stage⟩ := c
  cases stage with
  | waiting => simp [Stage.holdsName] at hholds
  | named found =>
      cases found with
      | true => exact ⟨_, .advance .findName⟩
      | false => exact ⟨_, .advance .makeName⟩
  | opened => exact ⟨_, .advance (.takePath (hfree.listFree r.path) rfl)⟩
  | placed found =>
      cases found with
      | true => exact ⟨_, .advance .findList⟩
      | false => exact ⟨_, .advance .makeList⟩
  | listed =>
      have hlist := (Builder.find?_finish hcontent r.path).trans (find?_appendAt_nil _ _)
      exact ⟨_, .advance (.append hlist)⟩
  | written => exact ⟨_, .advance .release⟩
  | done => simp [Stage.holdsName] at hholds

/-- As long as a call is not done, some call can make a step. -/
theorem Sound.exists_step {b : Builder} {log : List Record} {s : Recording} (h : Sound b log s)
    (hs : ¬ s.Finished) : ∃ s', Step s s' := by
  by_cases hholder : ∃ c ∈ s.calls, c.stage.holdsName = true
  · obtain ⟨c, hc, hholds⟩ := hholder
    exact h.exists_step_of_holdsName hc hholds
  · -- nobody holds a guard, so a call that is not done waits and may take its own
    simp only [Finished, not_forall] at hs
    obtain ⟨c, hc, hdone⟩ := hs
    have hnone : ∀ d ∈ s.calls, ¬ d.stage.holdsName = true :=
      fun d hd hholds => hholder ⟨d, hd, hholds⟩
    have hidle := hnone c hc
    obtain ⟨b₁, calls⟩ := s
    obtain ⟨before, after, rfl⟩ := List.append_of_mem hc
    obtain ⟨r, stage⟩ := c
    cases stage with
    | waiting =>
        refine ⟨_, .advance (.takeName ?_ rfl)⟩
        intro d hd hholds
        exact absurd hholds (hnone d (by rcases List.mem_append.1 hd with hd | hd <;> simp [hd]))
    | done => exact absurd rfl hdone
    | _ => exact absurd rfl hidle

/-- No recording goes on for ever. -/
theorem step_wellFounded : WellFounded fun s' s : Recording => Step s s' :=
  Subrelation.wf Step.stepsLeft_lt (measure stepsLeft).wf

/-- Every state that satisfies the invariant can be brought to an end. -/
theorem Sound.exists_finished {b : Builder} {log : List Record} {s : Recording}
    (h : Sound b log s) : ∃ s', Relation.ReflTransGen Step s s' ∧ s'.Finished := by
  refine exists_reaches_done (fun s => ∃ log, Sound b log s) step_wellFounded ?_ ?_ ⟨log, h⟩
  · rintro s s' ⟨log, h⟩ hstep
    exact (h.step hstep).1
  · rintro s ⟨log, h⟩ hs
    exact h.exists_step hs

/-! ## The end -/

/-- At the end the builder is what the log makes of it, and every call is in the log. -/
theorem Sound.finished {b : Builder} {log : List Record} {s : Recording} (h : Sound b log s)
    (hdone : s.Finished) :
    s.builder = b.recordAll log ∧ log.Perm (s.calls.map Call.record) := by
  constructor
  · have htable : s.builder.table = (b.recordAll log).table := by
      apply OrderedMap.ext_find?
      intro name
      apply h.free
      intro c hc hholds
      simp [hdone c hc, Stage.holdsName] at hholds
    exact congrArg Builder.mk htable
  · have hall : (s.calls.filter fun c => c.stage.hasWritten) = s.calls := by
      rw [List.filter_eq_self]
      intro c hc
      rw [hdone c hc]
      rfl
    simpa [hall] using h.logged

/-! ## Calls without interruption -/

/-- A step of a call by itself is also one beside calls that do not hold its smell name. -/
theorem step_beside {others : List Call} {b b' : Builder} (h : Call.Step [] b c b' c')
    (hfree : NameFree others c.name) : Call.Step others b c b' c' := by
  cases h with
  | takeName _ hfound => exact .takeName hfree hfound
  | takePath _ hfound => exact .takePath (hfree.listFree _) hfound
  | append hlist => exact .append hlist
  | findName => exact .findName
  | makeName => exact .makeName
  | findList => exact .findList
  | makeList => exact .makeList
  | release => exact .release

/-- A run of a call by itself is also one beside calls that do not hold its smell name. -/
theorem reaches_beside {b : Builder} {s : Recording} (hfree : NameFree (before ++ after) c.name)
    (h : Relation.ReflTransGen Step ⟨b, [c]⟩ s) :
    ∃ c', s.calls = [c'] ∧ c'.name = c.name ∧
      Relation.ReflTransGen Step ⟨b, before ++ c :: after⟩ ⟨s.builder, before ++ c' :: after⟩ := by
  induction h with
  | refl => exact ⟨c, rfl, rfl, .refl⟩
  | @tail s s' _ hstep ih =>
      obtain ⟨d, hd, hname, hrun⟩ := ih
      cases hstep with
      | @advance front back e e' b₁ b₁' hcall =>
          obtain ⟨rfl, rfl, rfl⟩ : front = [] ∧ e = d ∧ back = [] := by
            simpa [List.append_eq_singleton_iff] using hd
          refine ⟨e', rfl, hcall.name_eq.trans hname, hrun.tail (.advance ?_)⟩
          exact step_beside hcall (hname ▸ hfree)

/-- A call without interruption does what recording in one go does. -/
theorem reaches_record {b : Builder} {r : Record}
    (hfree : NameFree (before ++ after) r.smell.name) :
    Relation.ReflTransGen Step ⟨b, before ++ ⟨r, .waiting⟩ :: after⟩
      ⟨b.record r.smell r.path r.method, before ++ ⟨r, .done⟩ :: after⟩ := by
  obtain ⟨s, hrun, hdone⟩ := (opening_sound b [r]).exists_finished
  obtain ⟨⟨log, hsound⟩, hrecords⟩ := sound_of_reachable hrun
  obtain ⟨hbuilder, hperm⟩ := hsound.finished hdone
  rw [hrecords, List.perm_singleton] at hperm
  obtain ⟨⟨r', stage⟩, hcalls, -, hbeside⟩ := reaches_beside hfree hrun
  have hstage : stage = .done := hdone ⟨r', stage⟩ (by simp [hcalls])
  have hrecord : r' = r := by simpa [hcalls] using hrecords
  rw [hbuilder, hperm, hstage, hrecord] at hbeside
  exact hbeside

/-- However the steps of some calls follow each other, the lists only ever grow at their ends.  The
calls can always be brought to an end, and then the builder gives the index of the same calls made
one after another in some order, to which each of them has added one method. -/
theorem finished_eq_recordAll {b : Builder} {records : List Record} {s : Recording}
    (hreach : Relation.ReflTransGen Step (opening b records) s) :
    (∀ s', Relation.ReflTransGen Step s s' → s.builder.GrowsTo s'.builder) ∧
    (∃ s', Relation.ReflTransGen Step s s' ∧ s'.Finished) ∧
    (s.Finished → ∃ order : List Record, order.Perm records ∧
      s.builder.finish = (b.recordAll order).finish ∧
      s.builder.finish.total = b.finish.total + records.length ∧
      ∀ name path, (s.builder.finish.find? name path).getD [] =
        (b.finish.find? name path).getD [] ++
          (order.filter (Record.isUnder name path)).map Record.method) := by
  obtain ⟨⟨log, hsound⟩, hrecords⟩ := sound_of_reachable hreach
  refine ⟨fun s' hrun => hsound.growsTo hrun, hsound.exists_finished, ?_⟩
  intro hdone
  obtain ⟨hbuilder, hperm⟩ := hsound.finished hdone
  rw [hrecords] at hperm
  refine ⟨log, hperm, by rw [hbuilder], ?_, ?_⟩
  · rw [hbuilder, total_recordAll, hperm.length_eq]
  · intro name path
    rw [hbuilder, getD_find?_recordAll]

/-- Two calls take turns under two smell names.  A third one waits for the guard of the first name,
and its method joins the list that it finds, under the spelling that stands there. -/
theorem finished_eq_recordAll_takingTurns :
    let load : Record := ⟨.deepNesting, ⟨"src/a.java"⟩, ⟨"load", [.deepNesting]⟩⟩
    let save : Record := ⟨.longMethod, ⟨"src/a.java"⟩, ⟨"save", [.longMethod]⟩⟩
    let sort : Record := ⟨.deepNesting, ⟨"src//a.java"⟩, ⟨"sort", [.deepNesting]⟩⟩
    ∃ s : Recording,
      Relation.ReflTransGen Step (opening .empty [sort, load, save]) s ∧ s.Finished ∧
        s.builder.finish.total = 3 ∧
        s.builder.finish.pairAt? "Deep Nesting" ⟨"src/a.java"⟩ =
          some (⟨"src/a.java"⟩, [⟨"load", [.deepNesting]⟩, ⟨"sort", [.deepNesting]⟩]) := by
  intro load save sort
  let path : Path := ⟨"src/a.java"⟩
  let wait : Call := ⟨sort, .waiting⟩
  let b₁ : Builder := (Builder.empty.putName "Long Method").putName "Deep Nesting"
  let b₂ : Builder := (b₁.putList "Deep Nesting" path []).putList "Long Method" path []
  let b₃ : Builder := b₂.putList "Long Method" path [save.method]
  let b₄ : Builder := b₃.putList "Deep Nesting" path [load.method]
  have h₁ : Relation.ReflTransGen Step (opening .empty [sort, load, save])
      ⟨b₁, [wait, ⟨load, .opened⟩, ⟨save, .opened⟩]⟩ := by
    refine .head (@Step.advance [wait] [_] _ ⟨load, .named false⟩ _ _ (.takeName ?_ ?_)) ?_
    · decide
    · rfl
    refine .head (@Step.advance [wait, _] [] _ ⟨save, .named false⟩ _ _ (.takeName ?_ ?_)) ?_
    · decide
    · rfl
    refine .head (@Step.advance [wait, _] [] _ _ _ _ .makeName) ?_
    exact .single (@Step.advance [wait] [_] _ _ _ _ .makeName)
  have h₂ : Relation.ReflTransGen Step ⟨b₁, [wait, ⟨load, .opened⟩, ⟨save, .opened⟩]⟩
      ⟨b₂, [wait, ⟨load, .listed⟩, ⟨save, .listed⟩]⟩ := by
    refine .head (@Step.advance [wait] [_] _ ⟨load, .placed false⟩ _ _ (.takePath ?_ ?_)) ?_
    · decide
    · decide
    refine .head (@Step.advance [wait, _] [] _ ⟨save, .placed false⟩ _ _ (.takePath ?_ ?_)) ?_
    · decide
    · decide
    refine .head (@Step.advance [wait] [_] _ _ _ _ .makeList) ?_
    exact .single (@Step.advance [wait, _] [] _ _ _ _ .makeList)
  have h₃ : Relation.ReflTransGen Step ⟨b₂, [wait, ⟨load, .listed⟩, ⟨save, .listed⟩]⟩
      ⟨b₄, [wait, ⟨load, .done⟩, ⟨save, .done⟩]⟩ := by
    refine .head (@Step.advance [wait, _] [] _ _ _ b₃ (@Call.Step.append _ _ _ [] ?_)) ?_
    · decide
    refine .head (@Step.advance [wait] [_] _ _ _ b₄ (@Call.Step.append _ _ _ [] ?_)) ?_
    · decide
    refine .head (@Step.advance [wait] [_] _ _ _ _ .release) ?_
    exact .single (@Step.advance [wait, _] [] _ _ _ _ .release)
  have h₄ : Relation.ReflTransGen Step ⟨b₄, [wait, ⟨load, .done⟩, ⟨save, .done⟩]⟩
      ⟨b₄.record sort.smell sort.path sort.method,
        [⟨sort, .done⟩, ⟨load, .done⟩, ⟨save, .done⟩]⟩ :=
    @reaches_record [] _ b₄ sort (by decide)
  have hreach := ((h₁.trans h₂).trans h₃).trans h₄
  obtain ⟨-, -, hend⟩ := finished_eq_recordAll hreach
  obtain ⟨order, -, -, htotal, -⟩ := hend (by decide)
  exact ⟨_, hreach, by decide, htotal, by decide⟩

end Recording

end FailureIndex

end SmellRefactor

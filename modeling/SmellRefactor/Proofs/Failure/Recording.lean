import Mathlib.Data.List.Pairwise
import Mathlib.Logic.Relation
import SmellRefactor.Proofs.Failure.Records

/-!
# Recording at the same time

Workers record failures in one builder at the same time.  A call takes the guard of its smell name
and sees whether there is a collection under the name; if not, it makes a fresh one.  Then it takes
the guard of its path in the same way, makes a fresh list if it saw none, appends its method, and
gives both guards back.  A guard belongs to one call at a time, and other than that the steps of
different calls may follow each other in any order.

What a call makes rests on what it saw, which is some steps old by then; a fresh collection or list
replaces whatever stands there.  The invariant says why nothing gets lost: under every smell name
stands what the finished appends have made of it, but for the half-done work of the one call that
holds the guard of the name.
-/

namespace SmellRefactor

namespace FailureIndex

/-! ## Calls and their steps -/

/-- How far a call has come. -/
inductive Stage where
  | waiting
  /-- It holds the guard of the smell name, and saw whether there is a collection. -/
  | named (found : Bool)
  /-- There is a collection. -/
  | opened
  /-- It holds the guard of the path, and saw whether there is a list. -/
  | placed (found : Bool)
  /-- There is a list. -/
  | listed
  /-- The method is in the list. -/
  | written
  | done
deriving DecidableEq, Repr

namespace Stage

/-- Whether a call holds the guard of its smell name. -/
def holdsName : Stage → Bool
  | waiting | done => false
  | _ => true

/-- Whether a call holds the guard of its path. -/
def holdsPath : Stage → Bool
  | placed _ | listed | written => true
  | _ => false

/-- Whether a call has appended its method. -/
def hasWritten : Stage → Bool
  | written | done => true
  | _ => false

/-- The number of steps that are left. -/
def stepsLeft : Stage → Nat
  | waiting => 6
  | named _ => 5
  | opened => 4
  | placed _ => 3
  | listed => 2
  | written => 1
  | done => 0

end Stage

/-- A call that records a failed method. -/
structure Call where
  record : Record
  stage : Stage
deriving DecidableEq, Repr

/-- The smell name under which a call records. -/
def Call.name (c : Call) : String := c.record.smell.name

/-- Whether no call among some holds the guard of a smell name. -/
def NameFree (calls : List Call) (name : String) : Prop :=
  ∀ c ∈ calls, c.stage.holdsName = true → c.name ≠ name

/-- Whether no call among some holds the guard of a path under a smell name. -/
def ListFree (calls : List Call) (name : String) (path : Path) : Prop :=
  ∀ c ∈ calls, c.stage.holdsPath = true → c.record.isUnder name path = false

instance (calls : List Call) (name : String) : Decidable (NameFree calls name) :=
  inferInstanceAs (Decidable (∀ c ∈ calls, c.stage.holdsName = true → c.name ≠ name))

instance (calls : List Call) (name : String) (path : Path) :
    Decidable (ListFree calls name path) :=
  inferInstanceAs
    (Decidable (∀ c ∈ calls, c.stage.holdsPath = true → c.record.isUnder name path = false))

/-- Puts an empty collection under a smell name, in place of any that is there. -/
def Builder.putName (b : Builder) (name : String) : Builder := ⟨b.table.insert name .empty⟩

/-- Puts a list under a smell name and a path, in place of any that is there. -/
def Builder.putList (b : Builder) (name : String) (path : Path) (list : List Method) : Builder :=
  ⟨b.table.upsert name fun old => (old.getD .empty).insert path list⟩

/-- One step of one call, with what it does to the builder.  The guards that it takes must not be
held by another call. -/
inductive Call.Step (others : List Call) : Builder → Call → Builder → Call → Prop
  | takeName {b : Builder} {r : Record} {found : Bool} (hfree : NameFree others r.smell.name)
      (hfound : found = (b.table.find? r.smell.name).isSome) :
      Step others b ⟨r, .waiting⟩ b ⟨r, .named found⟩
  | findName {b : Builder} {r : Record} : Step others b ⟨r, .named true⟩ b ⟨r, .opened⟩
  | makeName {b : Builder} {r : Record} :
      Step others b ⟨r, .named false⟩ (b.putName r.smell.name) ⟨r, .opened⟩
  | takePath {b : Builder} {r : Record} {found : Bool}
      (hfree : ListFree others r.smell.name r.path)
      (hfound : found = (b.finish.find? r.smell.name r.path).isSome) :
      Step others b ⟨r, .opened⟩ b ⟨r, .placed found⟩
  | findList {b : Builder} {r : Record} : Step others b ⟨r, .placed true⟩ b ⟨r, .listed⟩
  | makeList {b : Builder} {r : Record} :
      Step others b ⟨r, .placed false⟩ (b.putList r.smell.name r.path []) ⟨r, .listed⟩
  | append {b : Builder} {r : Record} {list : List Method}
      (hlist : b.finish.find? r.smell.name r.path = some list) :
      Step others b ⟨r, .listed⟩ (b.putList r.smell.name r.path (list ++ [r.method]))
        ⟨r, .written⟩
  | release {b : Builder} {r : Record} : Step others b ⟨r, .written⟩ b ⟨r, .done⟩

/-- A builder with the calls that are at work on it. -/
structure Recording where
  builder : Builder
  calls : List Call

namespace Recording

/-- The calls that record some failures, before their first steps. -/
def opening (b : Builder) (records : List Record) : Recording :=
  ⟨b, records.map fun r => ⟨r, .waiting⟩⟩

/-- One call makes one step. -/
inductive Step : Recording → Recording → Prop
  | advance {before after : List Call} {c c' : Call} {b b' : Builder}
      (h : Call.Step (before ++ after) b c b' c') :
      Step ⟨b, before ++ c :: after⟩ ⟨b', before ++ c' :: after⟩

/-- Whether all calls are done. -/
def Finished (s : Recording) : Prop := ∀ c ∈ s.calls, c.stage = .done

instance (s : Recording) : Decidable s.Finished :=
  inferInstanceAs (Decidable (∀ c ∈ s.calls, c.stage = .done))

end Recording

/-! ## One call by itself -/

/-- What stands under the smell name of a call, if the finished appends have made `settled` of
it. -/
def Stage.content (stage : Stage) (path : Path) (settled : Option FailedMethods) :
    Option FailedMethods :=
  match stage with
  | opened | placed _ => some (settled.getD .empty)
  | listed => some (appendAt (settled.getD .empty) path [])
  | _ => settled

/-- Whether that which a call saw when it took a guard is still so. -/
def Call.SawRight (c : Call) (b : Builder) : Prop :=
  match c.stage with
  | .named found => found = (b.table.find? c.name).isSome
  | .placed found => found = (b.finish.find? c.name c.record.path).isSome
  | _ => True

theorem Stage.content_of_not_holdsName {stage : Stage} (h : stage.holdsName = false) (path : Path)
    (settled : Option FailedMethods) : stage.content path settled = settled := by
  cases stage <;> simp_all [holdsName, content]

theorem Stage.holdsName_of_holdsPath {stage : Stage} (h : stage.holdsPath = true) :
    stage.holdsName = true := by
  cases stage <;> simp_all [holdsPath, holdsName]

/-- Where no call holds a smell name, none holds a path under it. -/
theorem NameFree.listFree {calls : List Call} {name : String} (h : NameFree calls name)
    (path : Path) : ListFree calls name path := by
  intro c hc hpath
  rw [← Bool.not_eq_true, Record.isUnder_iff]
  rintro ⟨hname, -⟩
  exact h c hc (Stage.holdsName_of_holdsPath hpath) hname

/-- What a call saw depends on what stands under its own smell name, and only while it holds the
guard. -/
theorem Call.SawRight.congr {c : Call} {b b' : Builder} (h : c.SawRight b)
    (hname : c.stage.holdsName = true → b'.table.find? c.name = b.table.find? c.name) :
    c.SawRight b' := by
  obtain ⟨r, stage⟩ := c
  cases stage with
  | named found =>
      have hfind := hname rfl
      simpa only [SawRight, hfind] using h
  | placed found =>
      have hfind := hname rfl
      simpa only [SawRight, find?, Builder.finish, hfind] using h
  | _ => trivial

section Lists

variable {methods : FailedMethods} {path : Path}

theorem appendAt_nil_eq_self (h : (methods.find? path).isSome = true) :
    appendAt methods path [] = methods := by
  obtain ⟨list, hlist⟩ := Option.isSome_iff_exists.1 h
  exact OrderedMap.upsert_eq_self hlist (List.append_nil list)

theorem insert_nil_eq_appendAt (h : methods.find? path = none) :
    methods.insert path [] = appendAt methods path [] := by
  apply OrderedMap.upsert_congr
  rw [h]
  rfl

theorem find?_appendAt_nil (methods : FailedMethods) (path : Path) :
    (appendAt methods path []).find? path = some ((methods.find? path).getD []) := by
  rw [appendAt, OrderedMap.find?_upsert, if_pos Std.ReflCmp.compare_self, List.append_nil]

/-- Appending to the list that was found or made is appending from the start. -/
theorem insert_append_appendAt (failed : List Method) :
    (appendAt methods path []).insert path ((methods.find? path).getD [] ++ failed) =
      appendAt methods path failed := by
  rw [appendAt, OrderedMap.insert, OrderedMap.upsert_upsert]
  apply OrderedMap.upsert_congr
  rfl

end Lists

namespace Builder

variable (b : Builder) {name : String}

theorem find?_table_putName (other : String) :
    (b.putName name).table.find? other =
      if other = name then some .empty else b.table.find? other := by
  simp only [putName, OrderedMap.insert, OrderedMap.find?_upsert, Std.compare_eq_iff_eq]

theorem find?_table_putList (path : Path) (list : List Method) (other : String) :
    (b.putList name path list).table.find? other =
      if other = name then some (((b.table.find? name).getD .empty).insert path list)
      else b.table.find? other := by
  simp only [putList, OrderedMap.find?_upsert, Std.compare_eq_iff_eq]

theorem find?_finish {b : Builder} {failed : FailedMethods}
    (h : b.table.find? name = some failed) (path : Path) :
    b.finish.find? name path = failed.find? path := by
  rw [find?, finish, h, Option.bind_some]

/-- A call that records a failure in one go changes what stands under its own smell name. -/
theorem find?_table_record (r : Record) (other : String) :
    (b.record r.smell r.path r.method).table.find? other =
      if other = r.smell.name then
        some (appendAt ((b.table.find? r.smell.name).getD .empty) r.path [r.method])
      else b.table.find? other := by
  simp only [record, OrderedMap.find?_upsert, Std.compare_eq_iff_eq]

end Builder

/-- Whether every list of a builder is the beginning of a list of another one, under the same
spelling of its path. -/
def Builder.GrowsTo (b b' : Builder) : Prop :=
  ∀ name path e, b.finish.pairAt? name path = some e →
    ∃ more, b'.finish.pairAt? name path = some (e.1, e.2 ++ more)

namespace Builder.GrowsTo

theorem refl (b : Builder) : b.GrowsTo b := by
  intro name path e he
  exact ⟨[], by rw [he, List.append_nil]⟩

theorem trans {b b' b'' : Builder} (h : b.GrowsTo b') (h' : b'.GrowsTo b'') :
    b.GrowsTo b'' := by
  intro name path e he
  obtain ⟨more, hmore⟩ := h name path e he
  obtain ⟨rest, hrest⟩ := h' name path _ hmore
  exact ⟨more ++ rest, by rw [hrest, List.append_assoc]⟩

/-- A fresh collection does no harm where there was none. -/
theorem putName {b : Builder} {name : String} (h : b.table.find? name = none) :
    b.GrowsTo (b.putName name) := by
  intro other path e he
  refine ⟨[], ?_⟩
  have hother : other ≠ name := by
    rintro rfl
    simp [pairAt?, finish, h] at he
  rw [List.append_nil, ← he, pairAt?, pairAt?, finish, find?_table_putName, if_neg hother]
  rfl

/-- A list does no harm where it begins with the one that it replaces. -/
theorem putList {b : Builder} {name : String} {path : Path} {list : List Method}
    (h : ∀ old, b.finish.find? name path = some old → ∃ more, list = old ++ more) :
    b.GrowsTo (b.putList name path list) := by
  intro other at' e he
  rw [pairAt?, finish, Option.bind_eq_some_iff] at he
  obtain ⟨failed, hfailed, hentry⟩ := he
  rw [pairAt?, finish, find?_table_putList]
  by_cases hname : other = name
  · subst hname
    rw [if_pos rfl, hfailed, Option.bind_some, Option.getD_some, OrderedMap.insert,
      OrderedMap.pairAt?_upsert]
    by_cases hpath : compare at' path = .eq
    · rw [failed.pairAt?_congr hpath] at hentry
      obtain ⟨more, rfl⟩ := h e.2 (by simp [find?, finish, hfailed, failed.find?_eq_map_pairAt?,
        hentry])
      exact ⟨more, by rw [if_pos hpath, hentry]; rfl⟩
    · exact ⟨[], by rw [if_neg hpath, hentry, List.append_nil]⟩
  · exact ⟨[], by rw [if_neg hname, hfailed, Option.bind_some, hentry, List.append_nil]⟩

end Builder.GrowsTo

theorem Call.Step.record_eq {others : List Call} {b b' : Builder} {c c' : Call}
    (h : Call.Step others b c b' c') : c'.record = c.record := by
  cases h <;> rfl

theorem Call.Step.name_eq {others : List Call} {b b' : Builder} {c c' : Call}
    (h : Call.Step others b c b' c') : c'.name = c.name :=
  congrArg (fun r => r.smell.name) h.record_eq

/-- What a step of a call does under its own smell name, where the finished appends had made
`settled` of it before and make `settled'` of it now. -/
structure Call.Effect (b : Builder) (c : Call) (b' : Builder) (c' : Call)
    (settled settled' : Option FailedMethods) : Prop where
  elsewhere : ∀ name, name ≠ c.name → b'.table.find? name = b.table.find? name
  content : b'.table.find? c.name = c'.stage.content c.record.path settled'
  sawRight : c'.SawRight b'
  grows : b.GrowsTo b'
  settles :
    (c'.stage.hasWritten = c.stage.hasWritten ∧ settled' = settled) ∨
    (c.stage.hasWritten = false ∧ c'.stage.hasWritten = true ∧
      settled' = some (appendAt (settled.getD .empty) c.record.path [c.record.method]))

/-- A step that leaves the builder alone. -/
theorem Call.Effect.ofSame {b : Builder} {r : Record} {stage stage' : Stage}
    {settled : Option FailedMethods}
    (hcontent : b.table.find? r.smell.name = stage'.content r.path settled)
    (hsaw : Call.SawRight ⟨r, stage'⟩ b) (hwritten : stage'.hasWritten = stage.hasWritten) :
    Call.Effect b ⟨r, stage⟩ b ⟨r, stage'⟩ settled settled :=
  ⟨fun _ _ => rfl, hcontent, hsaw, .refl b, .inl ⟨hwritten, rfl⟩⟩

/-- The step lemma of a single call.  Where the call saw right, a fresh collection or list replaces
nothing. -/
theorem Call.Step.exists_effect {others : List Call} {b b' : Builder} {c c' : Call}
    (h : Call.Step others b c b' c') {settled : Option FailedMethods}
    (hcontent : b.table.find? c.name = c.stage.content c.record.path settled)
    (hsaw : c.SawRight b) : ∃ settled', Call.Effect b c b' c' settled settled' := by
  cases h with
  | takeName hfree hfound => exact ⟨settled, .ofSame hcontent hfound rfl⟩
  | @findName r =>
      obtain ⟨failed, hfailed⟩ := Option.isSome_iff_exists.1 (Eq.symm hsaw)
      have hsettled : settled = some failed := hcontent.symm.trans hfailed
      refine ⟨settled, .ofSame ?_ trivial rfl⟩
      rw [hsettled]
      exact hfailed
  | @makeName r =>
      have hnone : b.table.find? r.smell.name = none := by
        simpa [Call.SawRight, Call.name] using hsaw
      have hsettled : settled = none := hcontent.symm.trans hnone
      refine ⟨settled, ?_, ?_, trivial, .putName hnone, .inl ⟨rfl, rfl⟩⟩
      · intro name hname
        exact (b.find?_table_putName name).trans (if_neg hname)
      · rw [hsettled]
        exact (b.find?_table_putName _).trans (if_pos rfl)
  | takePath hfree hfound => exact ⟨settled, .ofSame hcontent hfound rfl⟩
  | @findList r =>
      have hname : b.table.find? r.smell.name = some (settled.getD .empty) := hcontent
      have hsome : ((settled.getD .empty).find? r.path).isSome = true := by
        have hfound : true = (b.finish.find? r.smell.name r.path).isSome := hsaw
        rw [Builder.find?_finish hname] at hfound
        exact hfound.symm
      refine ⟨settled, .ofSame ?_ trivial rfl⟩
      rw [Stage.content, appendAt_nil_eq_self hsome]
      exact hname
  | @makeList r =>
      have hname : b.table.find? r.smell.name = some (settled.getD .empty) := hcontent
      have hnone : (settled.getD .empty).find? r.path = none := by
        have hfound : false = (b.finish.find? r.smell.name r.path).isSome := hsaw
        rw [Builder.find?_finish hname] at hfound
        simpa using hfound
      refine ⟨settled, ?_, ?_, trivial, .putList ?_, .inl ⟨rfl, rfl⟩⟩
      · intro name hother
        exact (b.find?_table_putList _ _ name).trans (if_neg hother)
      · refine (b.find?_table_putList _ _ _).trans (if_pos rfl |>.trans ?_)
        rw [hname, Option.getD_some, insert_nil_eq_appendAt hnone]
        rfl
      · intro old hold
        rw [Builder.find?_finish hname, hnone] at hold
        contradiction
  | @append r list hlist =>
      have hname : b.table.find? r.smell.name =
          some (appendAt (settled.getD .empty) r.path []) := hcontent
      have hold : list = ((settled.getD .empty).find? r.path).getD [] := by
        rw [Builder.find?_finish hname, find?_appendAt_nil] at hlist
        exact (Option.some.inj hlist).symm
      refine ⟨some (appendAt (settled.getD .empty) r.path [r.method]), ?_, ?_, trivial,
        .putList ?_, .inr ⟨rfl, rfl, rfl⟩⟩
      · intro name hother
        exact (b.find?_table_putList _ _ name).trans (if_neg hother)
      · refine (b.find?_table_putList _ _ _).trans (if_pos rfl |>.trans ?_)
        rw [hname, Option.getD_some, hold, insert_append_appendAt]
        rfl
      · intro old hfound
        exact ⟨[r.method], by rw [Option.some.inj (hlist.symm.trans hfound)]⟩
  | release => exact ⟨settled, .ofSame hcontent trivial rfl⟩

end FailureIndex

end SmellRefactor

import SmellRefactor.Proofs.Output.Buffered
import SmellRefactor.Proofs.Report.Balance
import SmellRefactor.Proofs.Request.Readiness

/-!
# Whether a report has arrived

A report that is written to a file goes through a buffer, and what the buffer holds in the end is
written when the output is closed, with no one asking what came of it.  So a request fails only if
the file refuses some of the bytes that it is handed before; it may succeed although the last bytes
of the report are lost, and it always succeeds with a report that fits the buffer.
-/

namespace SmellRefactor

open Output (bufferSize handOver handOver_append handOver_of_size_lt size_handOver_le)

namespace Settings

/-- The bytes of a report as a request writes it. -/
def bytes (s : Settings) (report : Report) : ByteArray := (report.render s.format s.style).toUTF8

/-- The bytes of a report that are handed to the output file before it is closed. -/
def early (s : Settings) (report : Report) : ByteArray :=
  (handOver .empty (report.pieces s.format s.style)).1

/-- At most one buffer of bytes follows those that are handed over early. -/
theorem exists_late (s : Settings) (report : Report) :
    ∃ late, s.early report ++ late = s.bytes report ∧ late.size ≤ bufferSize := by
  refine ⟨(handOver .empty (report.pieces s.format s.style)).2, ?_, ?_⟩
  · rw [early, handOver_append, ByteArray.empty_append]
    rfl
  · exact size_handOver_le (Nat.zero_le _) _

theorem early_of_size_lt {s : Settings} {report : Report}
    (h : (s.bytes report).size < bufferSize) : s.early report = .empty := by
  have hsize : ByteArray.empty.size +
      (String.join (report.pieces s.format s.style)).utf8ByteSize < bufferSize := by
    rw [ByteArray.size_empty, Nat.zero_add]
    exact h
  rw [early, handOver_of_size_lt hsize]

end Settings

/-! ## From the run to the file -/

section Writing

variable {launch : Launcher FileTree} {s : Settings} {t file : FileTree} {target : Location}
  {report : Report}

/-- What comes of writing a report to a file. -/
theorem deliver_of_create {path : Path} (houtput : s.output = some path)
    (hcreate : t.create path = .ok (target, file)) (report : Report) :
    deliver s report t =
      (if file.Takes target (s.early report) then .ok "" else .error (.error [] (.system .noSpace)),
        (file.append target (s.bytes report)).2) := by
  have hwrite := Output.writePieces_eq file target (report.pieces s.format s.style)
  change _ = ((file.append target (s.early report)).1, (file.append target (s.bytes report)).2)
    at hwrite
  rw [deliver, houtput]
  simp only [hcreate, hwrite]
  by_cases h : file.Takes target (s.early report)
  · rw [if_pos h, h]
  · rw [if_neg h, (FileTree.append_of_not_takes h .empty).1]

theorem refactorWorkload_of_report {r : Refactoring FileTree} {w : Workload}
    (h : r.report w t = .ok report) (s : Settings) (told : List Event) :
    (refactorWorkload s r w told t).answer =
        (deliver s report (r.refactorAll w t).world).1.map (fun _ => report) ∧
      (refactorWorkload s r w told t).tree = (deliver s report (r.refactorAll w t).world).2 := by
  rw [Refactoring.report] at h
  rw [refactorWorkload]
  cases hanswer : (r.refactorAll w t).answer with
  | error error => rw [hanswer] at h; cases h
  | ok index =>
      rw [hanswer] at h
      cases h
      exact ⟨rfl, rfl⟩

/-- Whether a request comes to write a report to a file: the report is the one on its run, and the
file is made, or emptied, after the run. -/
inductive Writes (launch : Launcher FileTree) (s : Settings) (t : FileTree) (report : Report)
    (file : FileTree) (target : Location) : Prop
  | intro {c : Configuration} {w : Workload} {r : Refactoring FileTree} {path : Path}
      (ready : Ready s t c w) (registered : c.refactoring launch = .ok r)
      (reported : r.report w t = .ok report) (requested : s.output = some path)
      (created : (r.refactorAll w t).world.create path = .ok (target, file))

theorem Writes.refactor_eq (h : Writes launch s t report file target) :
    (refactor launch s t).answer =
        (if file.Takes target (s.early report) then .ok report
          else .error (.error [] (.system .noSpace))) ∧
      (refactor launch s t).tree = (file.append target (s.bytes report)).2 := by
  obtain @⟨c, w, r, path, hready, hregistered, hreported, hrequested, hcreated⟩ := h
  obtain ⟨r', told, hr', heq⟩ := hready.refactor_eq launch
  obtain rfl : r' = r := Except.ok.inj (hr'.symm.trans hregistered)
  obtain ⟨hanswer, htree⟩ := refactorWorkload_of_report hreported s told
  rw [deliver_of_create hrequested hcreated] at hanswer htree
  rw [heq, hanswer, htree]
  refine ⟨?_, rfl⟩
  split <;> rfl

theorem Writes.answer_eq_ok_iff (h : Writes launch s t report file target) :
    (refactor launch s t).answer = .ok report ↔ file.Takes target (s.early report) := by
  rw [h.refactor_eq.1]
  split <;> simp_all

/-- A request writes at most one report, and that to one file. -/
theorem Writes.unique {report' : Report} {file' : FileTree} {target' : Location}
    (h : Writes launch s t report file target) (h' : Writes launch s t report' file' target') :
    report' = report ∧ file' = file ∧ target' = target := by
  obtain @⟨c, w, r, path, hready, hregistered, hreported, hrequested, hcreated⟩ := h
  obtain @⟨c', w', r', path', hready', hregistered', hreported', hrequested', hcreated'⟩ := h'
  obtain ⟨rfl, rfl⟩ := hready.unique hready'
  obtain rfl : r' = r := Except.ok.inj (hregistered'.symm.trans hregistered)
  obtain rfl : path' = path := Option.some.inj (hrequested'.symm.trans hrequested)
  obtain ⟨rfl, rfl⟩ := Prod.mk.inj (Except.ok.inj (hcreated'.symm.trans hcreated))
  exact ⟨Except.ok.inj (hreported'.symm.trans hreported), rfl, rfl⟩

/-- A request with an output file succeeds only by writing its report. -/
theorem exists_writes {path : Path} (houtput : s.output = some path)
    (h : (refactor launch s t).answer = .ok report) :
    ∃ file target, Writes launch s t report file target := by
  rcases ready_or_obstacle s t with ⟨c, w, hready⟩ | ⟨error, hobstacle⟩
  · obtain ⟨r, told, hregistered, heq⟩ := hready.refactor_eq launch
    rw [heq] at h
    have hreported := report_of_refactorWorkload h
    rw [(refactorWorkload_of_report hreported s told).1, deliver, houtput] at h
    cases hcreate : (r.refactorAll w t).world.create path with
    | error error =>
        simp only [hcreate] at h
        cases h
    | ok made => exact ⟨made.2, made.1, .intro hready hregistered hreported houtput hcreate⟩
  · obtain ⟨told, heq⟩ : ∃ told, refactor launch s t = .early error told t :=
      hobstacle.refactor_eq
    rw [heq] at h
    cases h

end Writing

/-! ## Lost bytes -/

/-- Whether a request that succeeds with an output file has put every byte of its report there. -/
def ArrivesWhole (launch : Launcher FileTree) (s : Settings) (t : FileTree) : Prop :=
  ∀ report, (refactor launch s t).answer = .ok report → s.output.isSome = true →
    ∃ file target, Writes launch s t report file target ∧ file.Takes target (s.bytes report)

/-- A success is to be trusted unless the output file can hold what it is handed early, but not the
whole report.  When a report is written, the answer depends on the early bytes only; the file gets
as many bytes of the report as it can hold, whatever the answer; at most one buffer of bytes can be
lost unseen, and the loss of a report that is smaller than the buffer is never seen. -/
theorem arrivesWhole_iff (launch : Launcher FileTree) (s : Settings) (t : FileTree) :
    (ArrivesWhole launch s t ↔
      ∀ report file target, Writes launch s t report file target →
        ∀ n, file.capacity? target = some n →
          ¬ ((s.early report).size ≤ n ∧ n < (s.bytes report).size)) ∧
    ∀ report file target, Writes launch s t report file target →
      (refactor launch s t).answer =
          (if file.Takes target (s.early report) then .ok report
            else .error (.error [] (.system .noSpace))) ∧
        (refactor launch s t).tree = (file.append target (s.bytes report)).2 ∧
        (∀ mode, file.node? target = some (.file .empty mode) →
          ((refactor launch s t).tree.contentAt target = s.bytes report ↔
            file.Takes target (s.bytes report))) ∧
        (∃ late, s.early report ++ late = s.bytes report ∧ late.size ≤ bufferSize) ∧
        ((s.bytes report).size < bufferSize → (refactor launch s t).answer = .ok report) := by
  refine ⟨⟨?_, ?_⟩, ?_⟩
  · rintro h report file target hwrites n hcapacity ⟨hfits, hlost⟩
    have hearly : file.Takes target (s.early report) := by
      refine FileTree.takes_iff.2 fun m hm => ?_
      rwa [Option.some.inj (hm.symm.trans hcapacity)]
    have houtput : s.output.isSome = true := by
      obtain ⟨-, -, -, hrequested, -⟩ := hwrites
      rw [hrequested]
      rfl
    obtain ⟨file', target', hwrites', hall⟩ := h report (hwrites.answer_eq_ok_iff.2 hearly) houtput
    obtain ⟨-, rfl, rfl⟩ := hwrites.unique hwrites'
    have hsize := FileTree.takes_iff.1 hall n hcapacity
    omega
  · intro h report hanswer houtput
    obtain ⟨path, hpath⟩ := Option.isSome_iff_exists.1 houtput
    obtain ⟨file, target, hwrites⟩ := exists_writes hpath hanswer
    have hearly := FileTree.takes_iff.1 (hwrites.answer_eq_ok_iff.1 hanswer)
    refine ⟨file, target, hwrites, FileTree.takes_iff.2 fun n hcapacity => ?_⟩
    have hbetween := h report file target hwrites n hcapacity
    have hfits := hearly n hcapacity
    omega
  · intro report file target hwrites
    obtain ⟨hanswer, htree⟩ := hwrites.refactor_eq
    refine ⟨hanswer, htree, ?_, s.exists_late report, fun hsmall => ?_⟩
    · intro mode hnode
      rw [htree]
      exact FileTree.contentAt_append_eq_iff hnode
    · rw [hwrites.answer_eq_ok_iff, Settings.early_of_size_lt hsmall, FileTree.Takes,
        FileTree.append_empty]

/-- The output file takes nothing at all, and the request succeeds. -/
theorem not_arrivesWhole_fullDevice :
    let t : FileTree :=
      (((FileTree.empty.place ["ok.json"] (.file "\x7b\x7d".toUTF8 .usual)).place ["tools.toml"]
        (.file "".toUTF8 .usual)).place ["dev"] .directory).place ["dev", "full"] (.device .full)
    let s : Settings :=
      { input := ⟨"ok.json"⟩
        config := some ⟨"tools.toml"⟩
        format := .json
        style := .plain
        output := some ⟨"/dev/full"⟩
        jobs := 0
        sequential := false }
    let launch : Launcher FileTree := fun _ _ t => (.ok ⟨.code 0, .empty⟩, t)
    ¬ ArrivesWhole launch s t ∧
      ∃ report, Writes launch s t report t ["dev", "full"] ∧ (s.bytes report).size = 150 ∧
        t.capacity? ["dev", "full"] = some 0 ∧ (refactor launch s t).answer = .ok report := by
  intro t s launch
  have hfollow : t.follow (⟨"tools.toml"⟩ : Path).components t.current = .ok ["tools.toml"] ∧
      t.follow (⟨"ok.json"⟩ : Path).components t.current = .ok ["ok.json"] := by
    decide +kernel
  have htools : t.readText ⟨"tools.toml"⟩ = .ok "" :=
    FileTree.readText_of_namesFile (by decide +kernel) hfollow.1 rfl
  have hmethods : t.readText ⟨"ok.json"⟩ = .ok "\x7b\x7d" :=
    FileTree.readText_of_namesFile (by decide +kernel) hfollow.2 rfl
  have hparse : Config.parse "" = .ok .standard := by decide +kernel
  have hresolve : (s.resolve t).1 = .ok .standard := by
    simp only [Settings.resolve, s, Config.load, htools, hparse]
    rfl
  have hnone : (Json.workloadOfText "\x7b\x7d").toOption.map Workload.files = some [] := by
    decide +kernel
  obtain ⟨⟨files, hdistinct⟩, hw, hfiles⟩ := exists_workload_of_files hnone
  obtain rfl : files = [] := hfiles
  have hready : Ready s t .standard .empty :=
    ⟨hresolve, Settings.check_of_resolve hresolve, ⟨_, hmethods, hw⟩, by simp [Workload.empty]⟩
  have hcreate : t.create ⟨"/dev/full"⟩ = .ok (["dev", "full"], t) := by
    have hcheck : FileTree.check ⟨"/dev/full"⟩ = .ok () := by
      rw [FileTree.check_eq]
      decide +kernel
    have hsplit : (⟨"/dev/full"⟩ : Path).splitLast = (⟨"/dev/"⟩, "full") := by decide +kernel
    have hfollow : t.follow (⟨"/dev/"⟩ : Path).components t.current = .ok ["dev"] := by
      decide +kernel
    have hend : "/dev/full".endsWith "/" = false := by decide +kernel
    rw [FileTree.create, FileTree.createAs, FileTree.openFile, hcheck, hsplit]
    simp only [Bind.bind, Except.bind, hfollow, hend]
    rfl
  let report : Report := Report.ofRun 0 .empty .empty
  have hwrites : Writes launch s t report t ["dev", "full"] :=
    .intro hready rfl rfl rfl hcreate
  have hsize : (s.bytes report).size = 150 := by decide +kernel
  have hanswer : (refactor launch s t).answer = .ok report := by
    rw [hwrites.answer_eq_ok_iff, Settings.early_of_size_lt (by rw [hsize]; decide), FileTree.Takes,
      FileTree.append_empty]
  have hcapacity : t.capacity? ["dev", "full"] = some 0 := rfl
  refine ⟨?_, report, hwrites, hsize, hcapacity, hanswer⟩
  intro hwhole
  obtain ⟨file, target, hwrites', hall⟩ := hwhole report hanswer rfl
  obtain ⟨-, rfl, rfl⟩ := hwrites.unique hwrites'
  have hempty := FileTree.takes_iff.1 hall 0 hcapacity
  omega

end SmellRefactor

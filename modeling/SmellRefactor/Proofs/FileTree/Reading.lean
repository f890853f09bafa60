import SmellRefactor.Proofs.Map.Lookup
import SmellRefactor.FileTree.Basic

/-!
# What a reading depends on

Following a path goes through the locations of its *trail*, and nothing but what stands at these
locations decides what is read at the end.  So two trees that agree on a trail cannot be told apart
by reading the path, whatever else they hold.
-/

namespace SmellRefactor.FileTree

/-! ## Readable files -/

theorem check_eq (path : Path) :
    check path =
      if '\x00' ∈ path.text.toList then .error .nulInPath
      else if path.isEmpty then .error .notFound
      else if pathLimit ≤ path.text.utf8ByteSize then .error .nameTooLong
      else .ok () := by
  simp only [check, String.contains_char_eq, decide_eq_true_eq]

/-- A file that holds the bytes of a text reads as this text. -/
theorem readText_of_file {t : FileTree} {path : Path} {location : Location}
    {text : String} {mode : Mode} (hcheck : check path = .ok ())
    (hfollow : t.follow path.components t.current = .ok location)
    (hnode : t.node? location = some (.file text.toUTF8 mode))
    (hend : endsInDirectory path = false) : t.readText path = .ok text := by
  have hlocate : t.locate path = .ok location := by
    rw [locate, hcheck]
    exact hfollow
  have hread : t.read path = .ok text.toUTF8 := by
    rw [read, lookup, hlocate]
    simp only [Bind.bind, Except.bind, hnode, hend]
    rfl
  have htext : String.fromUTF8? text.toUTF8 = some text := by
    rw [String.fromUTF8?, String.toUTF8_eq_toByteArray, dif_pos text.isValidUTF8]
    rfl
  rw [readText, hread]
  simp only [Bind.bind, Except.bind, htext]

/-- Whether a path can be the path of a file. -/
def NamesFile (path : Path) : Prop := check path = .ok () ∧ endsInDirectory path = false

instance : DecidablePred NamesFile := fun path =>
  decidable_of_iff
    ((if '\x00' ∈ path.text.toList then Except.error SystemError.nulInPath
      else if path.isEmpty then .error .notFound
      else if pathLimit ≤ path.text.utf8ByteSize then .error .nameTooLong
      else .ok ()) = Except.ok () ∧ endsInDirectory path = false)
    (by rw [NamesFile, check_eq])

theorem readText_of_namesFile {t : FileTree} {path : Path} {location : Location} {text : String}
    {mode : Mode} (h : NamesFile path)
    (hfollow : t.follow path.components t.current = .ok location)
    (hnode : t.node? location = some (.file text.toUTF8 mode)) : t.readText path = .ok text :=
  readText_of_file h.1 hfollow hnode h.2

/-- What can be read is there. -/
theorem exists?_of_readText {t : FileTree} {path : Path} {text : String}
    (h : t.readText path = .ok text) : t.exists? path = true := by
  rw [exists?]
  cases hlookup : t.lookup path with
  | error error =>
      rw [readText, read, hlookup] at h
      cases h
  | ok found => rfl

/-- Nothing is there where the components of a path lead nowhere or to nothing. -/
theorem exists?_eq_false_of_follow {t : FileTree} {path : Path}
    (h : ((t.follow path.components t.current).toOption.bind t.node?).isNone = true) :
    t.exists? path = false := by
  rw [exists?, lookup, locate]
  cases check path with
  | error error => rfl
  | ok =>
      simp only [Bind.bind, Except.bind]
      cases hfollow : t.follow path.components t.current with
      | error error => rfl
      | ok location =>
          have hnode : t.node? location = none := by simpa [hfollow, Except.toOption] using h
          simp only [hnode]
          rfl

/-! ## Trails -/

/-- The location to which a component leads from a location, if it leads anywhere. -/
def onward (location : Location) : Component → Location
  | .root => []
  | .current => location
  | .parent => above location
  | .named name => location ++ [name]

/-- The locations that components go through from a location, with the one at which they end. -/
def trail : List Component → Location → List Location
  | [], location => [location]
  | c :: components, location => location :: trail components (onward location c)

theorem mem_trail_self (components : List Component) (location : Location) :
    location ∈ trail components location := by
  cases components <;> simp [trail]

theorem step_eq_onward {t : FileTree} {location next : Location} {c : Component}
    (h : t.step location c = .ok next) : next = onward location c := by
  cases c with
  | root => exact (Except.ok.inj h).symm
  | current => exact (Except.ok.inj h).symm
  | parent =>
      cases henter : t.enter location with
      | error error => simp [step, henter, Bind.bind, Except.bind] at h
      | ok =>
          rw [step, henter] at h
          exact (Except.ok.inj h).symm
  | named name =>
      cases henter : t.enter location with
      | error error => simp [step, henter, Bind.bind, Except.bind] at h
      | ok =>
          simp only [step, henter, Bind.bind, Except.bind] at h
          split at h
          · cases h
          · exact (Except.ok.inj h).symm

/-- Components end on their trail. -/
theorem mem_trail_of_follow {t : FileTree} {components : List Component} {location last : Location}
    (h : t.follow components location = .ok last) : last ∈ trail components location := by
  induction components generalizing location with
  | nil =>
      obtain rfl := Except.ok.inj h
      exact mem_trail_self [] _
  | cons c components ih =>
      cases hstep : t.step location c with
      | error error => simp [follow, hstep, Bind.bind, Except.bind] at h
      | ok next =>
          rw [follow, hstep] at h
          rw [trail, ← step_eq_onward hstep]
          exact List.mem_cons_of_mem _ (ih h)

/-! ## Trees that agree -/

variable {t t' : FileTree}

theorem step_congr {location : Location} (h : t.node? location = t'.node? location)
    (c : Component) : t.step location c = t'.step location c := by
  have henter : t.enter location = t'.enter location := by rw [enter, enter, h]
  cases c <;> simp only [step, henter]

theorem follow_congr {components : List Component} {location : Location}
    (h : ∀ l ∈ trail components location, t.node? l = t'.node? l) :
    t.follow components location = t'.follow components location := by
  induction components generalizing location with
  | nil => rfl
  | cons c components ih =>
      rw [follow, follow, ← step_congr (h location (by simp [trail])) c]
      cases hstep : t.step location c with
      | error error => rfl
      | ok next =>
          apply ih
          intro l hl
          rw [step_eq_onward hstep] at hl
          exact h l (List.mem_cons_of_mem _ hl)

theorem node?_place_of_ne (t : FileTree) {location other : Location} (node : FileNode)
    (h : other ≠ location) : (t.place location node).node? other = t.node? other := by
  cases other with
  | nil => rfl
  | cons name other =>
      change (t.nodes.insert location node).find? _ = _
      rw [OrderedMap.insert, OrderedMap.find?_upsert, if_neg (by simpa using h)]
      rfl

/-- Whether two trees have the same current directory, and the same at every location that a path
goes through. -/
structure AgreesOn (t t' : FileTree) (path : Path) : Prop where
  current : t.current = t'.current
  nodes : ∀ location ∈ trail path.components t.current, t.node? location = t'.node? location

namespace AgreesOn

variable {path : Path}

theorem locate_eq (h : AgreesOn t t' path) : t.locate path = t'.locate path := by
  rw [locate, locate, follow_congr h.nodes, h.current]

theorem lookup_eq (h : AgreesOn t t' path) : t.lookup path = t'.lookup path := by
  rw [lookup, lookup, ← h.locate_eq]
  cases hlocate : t.locate path with
  | error error => rfl
  | ok location =>
      have hmem : location ∈ trail path.components t.current := by
        cases hcheck : check path with
        | error error => simp [locate, hcheck, Bind.bind, Except.bind] at hlocate
        | ok =>
            rw [locate, hcheck] at hlocate
            exact mem_trail_of_follow hlocate
      simp only [Bind.bind, Except.bind, h.nodes location hmem]

/-- Trees that agree on a path read the same there. -/
theorem readText_eq (h : AgreesOn t t' path) : t.readText path = t'.readText path := by
  rw [readText, readText, read, read, h.lookup_eq]

/-- What is put beside the trail of a path does not matter to it. -/
theorem place (t : FileTree) {location : Location}
    (h : location ∉ trail path.components t.current) (node : FileNode) :
    AgreesOn t (t.place location node) path where
  current := rfl
  nodes := by
    intro other hother
    have hne : other ≠ location := fun heq => h (heq ▸ hother)
    exact (node?_place_of_ne t node hne).symm

end AgreesOn

end SmellRefactor.FileTree

import SmellRefactor.Method
import SmellRefactor.OrderedMap.Basic
import SmellRefactor.Path.Basic
import SmellRefactor.Tally

/-!
# Workloads

The methods to work on, grouped by the file that contains them.  A workload holds each path once;
its files stand in an order that carries no meaning, and whatever is shown to people goes through
`Workload.ordered`.
-/

namespace SmellRefactor

/-- Whether all paths of a list of files are different paths. -/
def DistinctPaths {ν : Type} (files : List (Path × ν)) : Prop :=
  files.Pairwise fun a b => compare a.1 b.1 ≠ .eq

/-- Methods by file, each path once. -/
structure Workload where
  files : List (Path × List Method)
  distinct : DistinctPaths files

namespace Workload

/-- Puts methods under a path; a path that is already there keeps its place and spelling. -/
def put (path : Path) (methods : List Method) :
    List (Path × List Method) → List (Path × List Method)
  | [] => [(path, methods)]
  | (p, old) :: rest =>
    if compare path p = .eq then (p, methods) :: rest else (p, old) :: put path methods rest

/-- Every path after a `put` was there before or is the new one. -/
theorem fst_mem_put {path : Path} {methods : List Method} {files : List (Path × List Method)}
    {e : Path × List Method} (h : e ∈ put path methods files) :
    e.1 = path ∨ ∃ e' ∈ files, e'.1 = e.1 := by
  induction files with
  | nil => simp_all [put]
  | cons head rest ih =>
    obtain ⟨p, old⟩ := head
    simp only [put] at h
    split at h
    · rcases List.mem_cons.1 h with rfl | h
      · exact .inr ⟨(p, old), by simp, rfl⟩
      · exact .inr ⟨e, by simp [h], rfl⟩
    · rcases List.mem_cons.1 h with rfl | h
      · exact .inr ⟨(p, old), by simp, rfl⟩
      · rcases ih h with h | ⟨e', he, h⟩
        · exact .inl h
        · exact .inr ⟨e', by simp [he], h⟩

/-- A `put` keeps the paths distinct. -/
theorem distinct_put {path : Path} {methods : List Method} {files : List (Path × List Method)}
    (h : DistinctPaths files) : DistinctPaths (put path methods files) := by
  induction files with
  | nil => simp [put, DistinctPaths]
  | cons head rest ih =>
    obtain ⟨p, old⟩ := head
    have hhead := (List.pairwise_cons.1 h).1
    have hrest := (List.pairwise_cons.1 h).2
    simp only [put]
    split
    · exact List.pairwise_cons.2 ⟨hhead, hrest⟩
    · rename_i hne
      refine List.pairwise_cons.2 ⟨?_, ih hrest⟩
      intro e he
      rcases fst_mem_put he with h' | ⟨e', he', h'⟩
      · rw [h']
        intro heq
        exact hne (Std.OrientedCmp.eq_symm heq)
      · rw [← h']; exact hhead e' he'

/-- The workload without files. -/
def empty : Workload := ⟨[], List.Pairwise.nil⟩

instance : Inhabited Workload := ⟨empty⟩

/-- The methods of a file. -/
def find? (w : Workload) (path : Path) : Option (List Method) := Entries.find? path w.files

/-- Puts methods under a path, in place of those that were there. -/
def insert (w : Workload) (path : Path) (methods : List Method) : Workload :=
  ⟨put path methods w.files, distinct_put w.distinct⟩

/-- Takes a file out of the workload. -/
def erase (w : Workload) (path : Path) : Workload :=
  ⟨w.files.filter fun e => compare path e.1 != .eq, w.distinct.filter _⟩

/-- Inserts the files one after another, so that the last list of a path wins. -/
def ofList (files : List (Path × List Method)) : Workload :=
  files.foldl (fun w e => w.insert e.1 e.2) empty

/-- The number of files. -/
def size (w : Workload) : Nat := w.files.length

/-- The number of methods of all files. -/
def methodCount (w : Workload) : Nat := tally (fun e => e.2.length) w.files

/-- The files in path order. -/
def ordered (w : Workload) : OrderedMap Path (List Method) := .ofList w.files

/-- Whether paths are distinct depends on the paths alone. -/
theorem distinct_of_paths_eq {ν μ : Type} {files : List (Path × ν)} {others : List (Path × μ)}
    (h : others.map Prod.fst = files.map Prod.fst) (hd : DistinctPaths files) :
    DistinctPaths others := by
  have : (files.map Prod.fst).Pairwise fun p q => compare p q ≠ .eq := List.pairwise_map.2 hd
  exact List.pairwise_map.1 (h ▸ this)

/-- The workload with other methods in the same files. -/
def withFiles (w : Workload) (files : List (Path × List Method))
    (h : files.map Prod.fst = w.files.map Prod.fst) : Workload :=
  ⟨files, distinct_of_paths_eq h w.distinct⟩

end Workload

end SmellRefactor

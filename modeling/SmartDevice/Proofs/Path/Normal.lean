import SmartDevice.Path
import SmartDevice.Proofs.Text.Split

/-! # Paths in normal form are read as they were written -/

namespace SmartDevice

namespace PathRoot

/-- How many slashes stand for a root. -/
def slashes : PathRoot → ℕ
  | relative => 0
  | slash => 1
  | twoSlashes => 2

theorem ofText_replicate {α : Type} [DecidableEq α] {mark c : α} (root : PathRoot) (hc : c ≠ mark)
    (rest : List α) : ofText mark (List.replicate root.slashes mark ++ c :: rest) = root := by
  cases root <;> simp [slashes, ofText, List.replicate_succ, hc]

end PathRoot

/-- No part is empty, a single dot or holds a slash. -/
def Path.Normal (path : Path) : Prop :=
  ∀ part ∈ path.parts, part ≠ "" ∧ part ≠ "." ∧ '/' ∉ part.toList

namespace Path

theorem normal_ofString (text : String) : (ofString text).Normal := by
  intro part hpart
  simp only [ofString, List.mem_filter, List.mem_map, decide_eq_true_eq] at hpart
  obtain ⟨⟨piece, hpiece, rfl⟩, hempty, hdot⟩ := hpart
  refine ⟨hempty, hdot, ?_⟩
  rw [String.toList_ofList]
  exact Text.not_mem_of_mem_split _ piece hpiece

/-! ## Children -/

/-- A name that can be the last part of a path. -/
def IsName (name : String) : Prop := ofString name = { parts := [name] }

instance (name : String) : Decidable (IsName name) :=
  inferInstanceAs (Decidable (ofString name = _))

theorem parts_child (base : Path) {name : String} (h : IsName name) :
    (base.child name).parts = base.parts ++ [name] := by
  rw [child, show ofString name = _ from h, join, if_pos rfl]

theorem root_child (base : Path) {name : String} (h : IsName name) :
    (base.child name).root = base.root := by
  rw [child, show ofString name = _ from h, join, if_pos rfl]

theorem IsName.normal {name : String} (h : IsName name) :
    name ≠ "" ∧ name ≠ "." ∧ '/' ∉ name.toList := by
  have := normal_ofString name
  rw [show ofString name = _ from h] at this
  exact this name List.mem_cons_self

theorem Normal.child {base : Path} (h : base.Normal) {name : String} (hname : IsName name) :
    (base.child name).Normal := by
  intro part hpart
  rw [parts_child base hname, List.mem_append, List.mem_singleton] at hpart
  rcases hpart with hpart | rfl
  · exact h part hpart
  · exact hname.normal

theorem name?_child (base : Path) {name : String} (h : IsName name) :
    (base.child name).name? = some name := by
  rw [name?, parts_child base h, List.getLast?_concat]

theorem sibling_child (base : Path) {name other : String} (h : IsName name)
    (hother : IsName other) : (base.child name).sibling other = base.child other := by
  rw [sibling, parts_child base h, root_child base h, List.dropLast_concat, child,
    show ofString other = _ from hother, join, if_pos rfl]

/-! ## Texts -/

/-- What the texts of all children start with. -/
theorem toString_child (base : Path) :
    ∃ front : String, base.toString.utf8ByteSize ≤ front.utf8ByteSize + 1 ∧
      ∀ name, IsName name → (base.child name).toString = front ++ name := by
  have htext (name : String) (h : IsName name) : (base.child name).toString =
      base.root.toString ++ "/".intercalate (base.parts ++ [name]) := by
    rw [toString, parts_child base h, root_child base h, if_neg (by simp)]
  by_cases hparts : base.parts = []
  · refine ⟨base.root.toString, ?_, ?_⟩
    · rw [toString, hparts]
      split
      · exact Nat.le_add_left 1 _
      · rw [String.intercalate_nil, String.append_empty]
        exact Nat.le_succ _
    · intro name h
      rw [htext name h, hparts, List.nil_append, String.intercalate_singleton]
  · refine ⟨base.root.toString ++ "/".intercalate base.parts ++ "/", ?_, ?_⟩
    · rw [toString, if_neg (fun h => hparts h.2)]
      simp only [String.utf8ByteSize_append]
      omega
    · intro name h
      rw [htext name h, String.intercalate_append_of_ne_nil hparts (by simp),
        String.intercalate_singleton]
      simp only [String.append_assoc]

theorem toList_toString {path : Path} (h : path.parts ≠ []) :
    path.toString.toList =
      path.root.toString.toList ++ ['/'].intercalate (path.parts.map String.toList) := by
  rw [toString, if_neg (fun hboth => h hboth.2), String.toList_append, String.toList_intercalate]
  rfl

theorem toList_root (root : PathRoot) :
    root.toString.toList = List.replicate root.slashes '/' := by
  cases root <;> rfl

/-- A path in normal form is read back from its text. -/
theorem ofString_toString {path : Path} (h : path.Normal) : ofString path.toString = path := by
  obtain ⟨root, parts⟩ := path
  cases parts with
  | nil => cases root <;> rfl
  | cons part parts =>
      obtain ⟨hempty, -, hslash⟩ := h part List.mem_cons_self
      obtain ⟨c, rest, htext, hc⟩ := Text.intercalate_eq_cons (parts.map String.toList)
        (mt String.toList_eq_nil_iff.mp hempty) hslash
      have hsplit : Text.split '/' (['/'].intercalate ((part :: parts).map String.toList)) =
          (part :: parts).map String.toList := by
        refine Text.split_intercalate (List.cons_ne_nil _ _) ?_
        intro piece hpiece
        obtain ⟨other, hother, rfl⟩ := List.mem_map.mp hpiece
        exact (h other hother).2.2
      have hkeep : (part :: parts).filter (fun part => part ≠ "" ∧ part ≠ ".") =
          part :: parts := by
        rw [List.filter_eq_self]
        intro other hother
        simpa using ⟨(h other hother).1, (h other hother).2.1⟩
      have hback : ((part :: parts).map String.toList).map String.ofList = part :: parts := by
        simp [Function.comp_def]
      rw [ofString, toList_toString (List.cons_ne_nil _ _), toList_root]
      simp only
      congr 1
      · rw [List.map_cons, htext, PathRoot.ofText_replicate root hc]
      · rw [Text.split_replicate_append, hsplit, List.map_append, hback, List.filter_append, hkeep]
        simp

end Path

end SmartDevice

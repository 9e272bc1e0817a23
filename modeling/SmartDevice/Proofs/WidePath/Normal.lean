import SmartDevice.WidePath
import SmartDevice.Proofs.Path.Normal
import SmartDevice.Proofs.Text.Stored

/-! # Paths of wide texts in normal form are read as they were written -/

namespace SmartDevice.WidePath

/-- No part is empty, a single dot or holds a slash. -/
def Normal (path : WidePath) : Prop :=
  ∀ part ∈ path.parts, part ≠ ↑"" ∧ part ≠ ↑"." ∧ slash ∉ part.units

theorem normal_ofText (text : WideText) : (ofText text).Normal := by
  intro part hpart
  simp only [ofText, List.mem_filter, List.mem_map, decide_eq_true_eq] at hpart
  obtain ⟨⟨piece, hpiece, rfl⟩, hempty, hdot⟩ := hpart
  exact ⟨hempty, hdot, Text.not_mem_of_mem_split _ piece hpiece⟩

/-- Only the slash itself has its unit. -/
theorem eq_slash_of_mem_unitsOf {c : Char} (h : slash ∈ WideText.unitsOf c) : c = '/' := by
  unfold WideText.unitsOf at h
  split at h
  · next hsmall =>
      have hnat : c.toNat = '/'.toNat := by
        have := congrArg UInt16.toNat (List.mem_singleton.mp h)
        rw [UInt16.toNat_ofNat_of_lt' hsmall] at this
        exact this.symm
      rw [← Char.ofNat_toNat c, hnat, Char.ofNat_toNat]
  · have hmax : c.toNat < 0x110000 := Text.Utf8.toNat_lt c
    simp only [List.mem_cons, List.not_mem_nil, or_false, ← UInt16.toNat_inj] at h
    rcases h with h | h
    · rw [UInt16.toNat_ofNat_of_lt' (show _ < 0x10000 by omega)] at h
      change 0x2f = _ at h
      omega
    · rw [UInt16.toNat_ofNat_of_lt' (show _ < 0x10000 by omega)] at h
      change 0x2f = _ at h
      omega

theorem normal_ofPath {path : Path} (h : path.Normal) : (path : WidePath).Normal := by
  intro part hpart
  obtain ⟨name, hname, rfl⟩ := List.mem_map.mp hpart
  obtain ⟨hempty, hdot, hslash⟩ := h name hname
  refine ⟨mt WideText.ofString_inj.mp hempty, mt WideText.ofString_inj.mp hdot, fun hmem => ?_⟩
  obtain ⟨c, hc, hunit⟩ := List.mem_flatMap.mp hmem
  rw [eq_slash_of_mem_unitsOf hunit] at hc
  exact hslash hc

theorem units_root (root : PathRoot) :
    (root.toString : WideText).units = List.replicate root.slashes slash := by
  cases root <;> decide

/-- A path in normal form is read back from its text. -/
theorem ofText_toText {path : WidePath} (h : path.Normal) : ofText path.toText = path := by
  obtain ⟨root, parts⟩ := path
  cases parts with
  | nil => cases root <;> decide
  | cons part parts =>
      obtain ⟨hempty, -, hslash⟩ := h part List.mem_cons_self
      have hunits : part.units ≠ [] := fun hnil => hempty (congrArg WideText.mk hnil)
      obtain ⟨c, rest, htext, hc⟩ :=
        Text.intercalate_eq_cons (parts.map WideText.units) hunits hslash
      have hsplit : Text.split slash ([slash].intercalate ((part :: parts).map WideText.units)) =
          (part :: parts).map WideText.units := by
        refine Text.split_intercalate (List.cons_ne_nil _ _) ?_
        intro piece hpiece
        obtain ⟨other, hother, rfl⟩ := List.mem_map.mp hpiece
        exact (h other hother).2.2
      have hkeep : (part :: parts).filter (fun part => part ≠ ↑"" ∧ part ≠ ↑".") =
          part :: parts := by
        rw [List.filter_eq_self]
        intro other hother
        simpa using ⟨(h other hother).1, (h other hother).2.1⟩
      have hback : ((part :: parts).map WideText.units).map WideText.mk = part :: parts := by
        simp [Function.comp_def]
      have hwritten : (toText ⟨root, part :: parts⟩).units =
          List.replicate root.slashes slash ++
            [slash].intercalate ((part :: parts).map WideText.units) := by
        rw [toText, if_neg (by simp), ← units_root]
        rfl
      rw [ofText, hwritten]
      congr 1
      · rw [List.map_cons, htext, PathRoot.ofText_replicate root hc]
      · rw [Text.split_replicate_append, hsplit, List.map_append, hback, List.filter_append, hkeep]
        have hnothing : (List.replicate root.slashes []).map WideText.mk =
            List.replicate root.slashes ↑"" := by
          rw [List.map_replicate]
          rfl
        simp [hnothing]

end SmartDevice.WidePath

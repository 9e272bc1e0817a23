import SmartDevice.Proofs.Disk.Growth

/-! # Where new directories lie

The directories that are made for a path lie on its way, and none of them lies below the last. So a
child of a path that climbs is what it was before, or is missing as before. -/

namespace SmartDevice.Disk

open Apply

variable {a b c disk : Disk} {at_ place location : Location} {path : Path} {name : String}
  {node : Node}

/-! ## What a path leads to -/

/-- What a path leads to, if it leads anywhere. -/
def reached? (disk : Disk) (path : Path) : Option Node :=
  (disk.found path).toOption.bind disk.node?

theorem reached?_eq_some_iff :
    disk.reached? path = some node ↔
      ∃ location, disk.found path = .ok location ∧ disk.node? location = some node := by
  unfold reached?
  cases disk.found path <;> simp [Except.toOption]

theorem missed_eq_ok {e : FileError} {seen : Option Node} (h : missed e = .ok seen) :
    seen = none := by
  unfold missed at h
  split at h
  · exact (Except.ok.inj h).symm
  · exact (Except.ok.inj h).symm
  · exact (Except.ok.inj h).symm
  · cases h

/-- Whether something stands at a path is answered rightly, if at all. -/
theorem occupied_cases (disk : Disk) (path : Path) :
    disk.occupied path = .ok (disk.reached? path).isSome ∨
      disk.reached? path = none ∧ ∃ e, disk.occupied path = .error e := by
  unfold occupied seen reached?
  cases disk.found path with
  | ok location => exact .inl rfl
  | error e =>
      simp only
      cases hmissed : missed e with
      | error e => exact .inr ⟨rfl, e, rfl⟩
      | ok seen =>
          rw [missed_eq_ok hmissed]
          exact .inl rfl

theorem occupied_of_reached (h : disk.reached? path = some node) :
    disk.occupied path = .ok true := by
  rcases occupied_cases disk path with hoccupied | ⟨hnone, -⟩
  · rw [hoccupied, h, Option.isSome_some]
  · cases h.symm.trans hnone

theorem Same.reached?_eq (h : Same a b) (path : Path) : b.reached? path = a.reached? path := by
  rw [reached?, reached?, h.found_eq, funext h.node?]

/-! ## The way of a path -/

/-- A place that a path comes by, or leads to. -/
def OnWay (disk : Disk) (path : Path) (location : Location) : Prop :=
  ∃ down rest, path.parts = down ++ rest ∧ disk.walk (disk.startOf path) down = .ok location

/-- A disk has new directories on the way of a path, and nothing else is different. -/
structure Paves (path : Path) (a b : Disk) : Prop where
  grows : Grows a b
  way : ∀ location, b.node? location ≠ a.node? location → b.OnWay path location

theorem OnWay.stay (h : a.OnWay path location) (hab : DirectoriesStay a b) :
    b.OnWay path location := by
  obtain ⟨down, rest, hparts, hwalk⟩ := h
  refine ⟨down, rest, hparts, ?_⟩
  rw [hab.startOf_eq]
  exact hab.walk down hwalk

namespace Paves

theorem refl (path : Path) (disk : Disk) : Paves path disk disk :=
  ⟨.refl disk, fun _ h => absurd rfl h⟩

theorem trans (h : Paves path a b) (h' : Paves path b c) : Paves path a c where
  grows := h.grows.trans h'.grows
  way location hnew := by
    by_cases hlater : c.node? location = b.node? location
    · rw [hlater] at hnew
      exact (h.way location hnew).stay h'.grows.stay
    · exact h'.way location hlater

theorem of_same (h : Same a b) : Paves path a b :=
  ⟨.of_same h, fun location hnew => absurd (h.node? location) hnew⟩

end Paves

theorem paves_makeDirectory {above : Path} {rest : List String} (hroot : above.root = path.root)
    (hparts : path.parts = above.parts ++ rest) : Moves (Paves path) (makeDirectory above) := by
  refine moves_makeDirectory (.refl path) above fun disk location hwalk hnode => ?_
  have hgrows : Grows disk (disk.put location .directory) := .put hwalk hnode
  refine ⟨hgrows, fun other hnew => ⟨above.parts, rest, hparts, ?_⟩⟩
  have hstart : disk.startOf path = disk.startOf above := by
    rw [startOf, startOf, hroot]
  obtain rfl : other = location := by
    by_contra hother
    have hfree : disk.node? location ≠ some .directory := by simp [hnode]
    exact hnew (by rw [node?_put (ne_root hfree), if_neg hother])
  rw [hgrows.stay.startOf_eq, hstart]
  exact hgrows.stay.walk _ hwalk

theorem paves_makeDirectories (path : Path) : Moves (Paves path) (makeDirectories path) := by
  have htrans (a b c : Disk) : Paves path a b → Paves path b c → Paves path a c := .trans
  refine .bind htrans (moves_strike (fun _ _ => .of_same) _) fun _ => ?_
  exact moves_ensureDirectories (.refl path) htrans path
    fun above rest hroot hparts => paves_makeDirectory hroot hparts

/-! ## Children -/

/-- A way without steps up leads down. -/
theorem length_le_of_walk {rest : List String} (hup : ".." ∉ rest)
    (h : disk.walk at_ rest = .ok location) : at_.length ≤ location.length := by
  induction rest generalizing at_ with
  | nil =>
      cases h
      exact Nat.le_refl _
  | cons part rest ih =>
      rw [List.mem_cons, not_or] at hup
      rw [walk_cons_eq_ok_iff, if_neg (Ne.symm hup.1)] at h
      have hbelow := ih hup.2 h.2.2
      rw [List.length_cons] at hbelow
      omega

/-- No new directory lies below the last one. -/
theorem Paves.node?_child (h : Paves path a b) (hclimbs : a.Climbs path)
    (hplace : b.walk (b.startOf path) path.parts = .ok place) (name : String) :
    b.node? (name :: place) = a.node? (name :: place) := by
  by_contra hnew
  have hnone : a.node? (name :: place) = none := ((h.grows.node _).resolve_left hnew).1
  obtain ⟨down, rest, hparts, hwalk⟩ := h.way _ hnew
  -- The path would have to climb from the new directory, which it does not.
  have hup : ".." ∉ rest := by
    intro hmem
    obtain ⟨names, last, rfl⟩ := List.append_of_mem hmem
    rw [← List.append_assoc] at hparts
    obtain ⟨other, hother, hdir⟩ := hclimbs _ _ hparts
    obtain ⟨middle, hmiddle, hnames⟩ := (walk_append_eq_ok_iff _ _).mp hother
    have hwalk' := h.grows.stay.walk _ hmiddle
    rw [← h.grows.stay.startOf_eq] at hwalk'
    obtain rfl := Except.ok.inj (hwalk.symm.trans hwalk')
    cases names with
    | nil =>
        cases hnames
        exact absurd (hnone.symm.trans hdir) nofun
    | cons next names =>
        exact absurd (hnone.symm.trans ((walk_cons_eq_ok_iff _ _).mp hnames).1) nofun
  rw [hparts, walk_append_eq_ok_iff] at hplace
  obtain ⟨middle, hmiddle, hrest⟩ := hplace
  obtain rfl := Except.ok.inj (hwalk.symm.trans hmiddle)
  have hlength := length_le_of_walk hup hrest
  rw [List.length_cons] at hlength
  omega

/-- A child of a path that climbs stays what it is. -/
theorem Paves.reached?_child (h : Paves path a b) (htree : a.IsTree) (hclimbs : a.Climbs path)
    (hname : Path.IsName name) (hup : name ≠ "..") :
    b.reached? (path.child name) = a.reached? (path.child name) := by
  ext node
  rw [reached?_eq_some_iff, reached?_eq_some_iff]
  have hsame {location : Location} (hfound : b.found (path.child name) = .ok location) :
      b.node? location = a.node? location := by
    obtain ⟨place, hplace, rfl⟩ := holds_of_child hname hup ((found_eq_ok_iff _).mp hfound).2
    exact h.node?_child hclimbs hplace.walked name
  constructor
  · rintro ⟨location, hfound, hnode⟩
    rw [hsame hfound] at hnode
    have hfound' := h.grows.found_of_node htree (hclimbs.child hname hup) hfound (by simp [hnode])
    exact ⟨location, hfound', hnode⟩
  · rintro ⟨location, hfound, hnode⟩
    have hfound' := h.grows.stay.found hfound
    exact ⟨location, hfound', (hsame hfound').trans hnode⟩

end SmartDevice.Disk

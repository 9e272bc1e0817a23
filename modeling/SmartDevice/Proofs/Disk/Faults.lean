import SmartDevice.Proofs.Disk.Growth

/-! # Faults that wait

A fault strikes at an operation of its own kind, so other operations leave it waiting. -/

namespace SmartDevice.Disk

open Apply

variable {point other : FaultPoint} {disk : Disk}

/-- The faults of one kind that wait. -/
def waiting (point : FaultPoint) (disk : Disk) : List (FaultPoint × SystemError) :=
  disk.faults.filter (·.1 = point)

theorem calm_iff_waiting : Calm point disk ↔ disk.waiting point = [] := by
  rw [waiting, List.filter_eq_nil_iff]
  constructor
  · rintro h ⟨at_, e⟩ hmem heq
    obtain rfl : at_ = point := by simpa using heq
    exact h e hmem
  · intro h e hmem
    exact h _ hmem (by simp)

theorem keeps_waiting_strike (h : point ≠ other) : Keeps (waiting other) (strike point) := by
  intro disk
  unfold left strike
  simp only [bind_apply, get_apply]
  cases disk.faults.find? (·.1 = point) with
  | none => rfl
  | some fault =>
      change (disk.faults.eraseP (·.1 = point)).filter (·.1 = other) = disk.waiting other
      rw [waiting]
      induction disk.faults with
      | nil => rfl
      | cons fault faults ih => grind

theorem keeps_waiting_modify {change : Disk → Disk}
    (h : ∀ disk, (change disk).faults = disk.faults) :
    Keeps (waiting point) (modify change : Action PUnit) :=
  .modify fun disk => by rw [waiting, waiting, h]

theorem keeps_waiting_openForWriting (h : .openFile ≠ other) (path : Path) :
    Keeps (waiting other) (openForWriting path) := by
  refine .bind (keeps_waiting_strike h) fun _ =>
    .bind ((keeps_find path).comp (waiting other)) fun found => ?_
  obtain ⟨location, node⟩ := found
  cases node with
  | none => exact .bind (keeps_waiting_modify fun _ => rfl) fun _ => .pure _
  | some node =>
      cases node with
      | file bytes => exact .bind (keeps_waiting_modify fun _ => rfl) fun _ => .pure _
      | directory => exact .throw _

theorem keeps_waiting_write (h : .write ≠ other) (location : Location) (bytes : List UInt8) :
    Keeps (waiting other) (write location bytes) :=
  .bind (keeps_waiting_strike h) fun _ => keeps_waiting_modify fun _ => rfl

theorem keeps_waiting_rename (h : .rename ≠ other) (path target : Path) :
    Keeps (waiting other) (rename path target) := by
  refine .bind (keeps_waiting_strike h) fun _ => .ite (fun _ => .throw _) fun _ disk => ?_
  unfold left
  simp only [bind_apply, get_apply]
  cases disk.locate path with
  | error condition => rfl
  | ok source =>
      cases disk.locate target with
      | error condition => rfl
      | ok goal =>
          by_cases hname : target.name? = none ∨ target.name? = some ".."
          · simp only [if_pos hname]
            rfl
          · simp only [if_neg hname]
            cases disk.node? source with
            | none => rfl
            | some node =>
                cases node with
                | directory => rfl
                | file bytes =>
                    cases disk.node? goal with
                    | none => rfl
                    | some node => cases node <;> rfl

theorem keeps_waiting_makeDirectories (h : .makeDirectories ≠ other) (path : Path) :
    Keeps (waiting other) (makeDirectories path) := by
  let Waits (a b : Disk) : Prop := b.waiting other = a.waiting other
  have hrefl (disk : Disk) : Waits disk disk := rfl
  have htrans (a b c : Disk) (hab : Waits a b) (hbc : Waits b c) : Waits a c := hbc.trans hab
  have hmake (above : Path) : Moves Waits (makeDirectory above) :=
    moves_makeDirectory hrefl above fun _ _ _ _ => rfl
  have hensure : Moves Waits (ensureDirectories path) :=
    moves_ensureDirectories hrefl htrans path fun above _ _ _ => hmake above
  exact .bind (keeps_waiting_strike h) fun _ => hensure

end SmartDevice.Disk

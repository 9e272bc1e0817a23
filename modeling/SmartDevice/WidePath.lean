import SmartDevice.Path
import SmartDevice.WideText

/-! Paths whose names are wide texts. They are written and compared like other paths, but only one
whose names are whole leads anywhere. -/

namespace SmartDevice

structure WidePath where
  root : PathRoot := .relative
  parts : List WideText := []
  deriving DecidableEq, Repr

namespace WidePath

def slash : UInt16 := 0x2f

def ofText (text : WideText) : WidePath where
  root := PathRoot.ofText slash text.units
  parts := ((Text.split slash text.units).map WideText.mk).filter fun part =>
    part ≠ ↑"" ∧ part ≠ ↑"."

def toText (path : WidePath) : WideText :=
  if path.root = .relative ∧ path.parts = [] then "."
  else path.root.toString ++ ⟨[slash].intercalate (path.parts.map WideText.units)⟩

def ofPath (path : Path) : WidePath where
  root := path.root
  parts := path.parts.map WideText.ofString

instance : Coe Path WidePath := ⟨ofPath⟩

end WidePath

end SmartDevice

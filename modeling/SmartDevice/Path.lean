import SmartDevice.Text.Split

/-! Paths in normal form: no empty part and no single dot. Two dots stay, since what they lead to
depends on the files. -/

namespace SmartDevice

/-- Where a path starts. -/
inductive PathRoot where
  | relative
  | slash
  /-- Exactly two slashes start a path of their own kind. -/
  | twoSlashes
  deriving DecidableEq, Repr

structure Path where
  root : PathRoot := .relative
  parts : List String := []
  deriving DecidableEq, Repr

namespace PathRoot

def toString : PathRoot → String
  | relative => ""
  | slash => "/"
  | twoSlashes => "//"

/-- The slashes at the start of a text tell where its path starts. -/
def ofText [DecidableEq α] (mark : α) (text : List α) : PathRoot :=
  match (text.takeWhile (· = mark)).length with
  | 0 => relative
  | 2 => twoSlashes
  | _ => slash

end PathRoot

namespace Path

def ofString (text : String) : Path where
  root := PathRoot.ofText '/' text.toList
  parts := ((Text.split '/' text.toList).map String.ofList).filter fun part =>
    part ≠ "" ∧ part ≠ "."

def toString (path : Path) : String :=
  if path.root = .relative ∧ path.parts = [] then "."
  else path.root.toString ++ "/".intercalate path.parts

/-- What a path leads to from a directory; a path with a root leads there from anywhere. -/
def join (base path : Path) : Path :=
  if path.root = .relative then { base with parts := base.parts ++ path.parts } else path

def child (base : Path) (name : String) : Path := base.join (ofString name)

/-- The path without its last part; without parts it is its own parent. -/
def parent (path : Path) : Path := { path with parts := path.parts.dropLast }

def name? (path : Path) : Option String := path.parts.getLast?

/-- The path beside this one that ends in another name. -/
def sibling (path : Path) (name : String) : Path :=
  { path with parts := path.parts.dropLast ++ [name] }

end Path

end SmartDevice

import NanoKvm.Proto.Report

/-!
# Paths and attribute texts

What `discovery/mod.rs` uses of `std::path` and of string parsing.  A path is
its components, innermost first, so that a parent is a tail; two spellings with
the same components are one path, as in the source.
-/

set_option autoImplicit false

namespace NanoKvm.Discovery

open NanoKvm.Proto

abbrev Text := List Char

/-- A file name; not every one is text. -/
inductive OsStr where
  | text (chars : Text)
  | raw (bytes : List U8)
  deriving DecidableEq, Repr

def OsStr.toStr : OsStr → Option Text
  | .text chars => some chars
  | .raw _ => none

inductive Component where
  | rootDir
  | curDir
  | parentDir
  | normal (name : OsStr)
  deriving DecidableEq, Repr

abbrev Path := List Component

namespace Path

def absolute (names : List String) : Path :=
  names.foldl (fun path name => .normal (.text name.toList) :: path) [.rootDir]

def join (path : Path) (name : Text) : Path := .normal (.text name) :: path

/-- Neither the root nor the empty path has one. -/
def parent : Path → Option Path
  | [] => none
  | .rootDir :: _ => none
  | _ :: up => some up

def fileName : Path → Option OsStr
  | .normal name :: _ => some name
  | _ => none

def fileStr (path : Path) : Option Text := path.fileName.bind (·.toStr)

def startsWith (path base : Path) : Bool := base.isSuffixOf path

/-- The components two paths share from the outermost on. -/
def shared : List Component → List Component → List Component
  | x :: xs, y :: ys => if x = y then x :: shared xs ys else []
  | _, _ => []

def common (a b : Path) : Path := (shared a.reverse b.reverse).reverse

theorem shared_append {base : List Component} {x y : Component} (differ : x ≠ y) :
    shared (base ++ [x]) (base ++ [y]) = base := by
  induction base with
  | nil => simp [shared, differ]
  | cons first rest ih => simp [shared, ih]

/-- What two children of one directory share is that directory. -/
theorem common_siblings {dir : Path} {x y : Component} (differ : x ≠ y) :
    common (x :: dir) (y :: dir) = dir := by
  rw [common, List.reverse_cons, List.reverse_cons, shared_append differ, List.reverse_reverse]

theorem startsWith_iff {path base : Path} : path.startsWith base = true ↔ base <:+ path :=
  List.isSuffixOf_iff_suffix

theorem parent_eq_some {path dir : Path} (up : path.parent = some dir) :
    ∃ component : Component, path = component :: dir := by
  cases path with
  | nil => cases up
  | cons component rest =>
      cases component with
      | rootDir => cases up
      | curDir | parentDir | normal name =>
          cases Option.some.inj up
          exact ⟨_, rfl⟩

end Path

/-! ## Attribute texts -/

/-- Unicode `White_Space`. -/
def isWhitespace (c : Char) : Bool :=
  (9 ≤ c.toNat && c.toNat ≤ 13) || (0x2000 ≤ c.toNat && c.toNat ≤ 0x200A) ||
    [0x20, 0x85, 0xA0, 0x1680, 0x2028, 0x2029, 0x202F, 0x205F, 0x3000].contains c.toNat

def trim (s : Text) : Text :=
  ((s.dropWhile isWhitespace).reverse.dropWhile isWhitespace).reverse

def digitOf (radix : Nat) (c : Char) : Option Nat :=
  let value :=
    if '0' ≤ c ∧ c ≤ '9' then some (c.toNat - '0'.toNat)
    else if 'a' ≤ c ∧ c ≤ 'z' then some (c.toNat - 'a'.toNat + 10)
    else if 'A' ≤ c ∧ c ≤ 'Z' then some (c.toNat - 'A'.toNat + 10)
    else none
  value.filter (· < radix)

def digits (radix bound : Nat) : Nat → Text → Option Nat
  | value, [] => some value
  | value, c :: rest =>
      (digitOf radix c).bind fun digit =>
        let next := value * radix + digit
        if bound < next then none else digits radix bound next rest

/-- Of an unsigned type whose greatest value is `bound`; one leading plus sign is let through. -/
def fromStrRadix (radix bound : Nat) (s : Text) : Option Nat :=
  match s with
  | [] | ['+'] => none
  | '+' :: rest => digits radix bound 0 rest
  | s => digits radix bound 0 s

def hex16 (s : Text) : Option Nat := fromStrRadix 16 0xFFFF (trim s)

def parseU32 (s : Text) : Option Nat := fromStrRadix 10 0xFFFFFFFF s

/-- Around the first `separator`. -/
def splitOnce (separator : Char) (s : Text) : Option (Text × Text) :=
  match s.dropWhile (· ≠ separator) with
  | [] => none
  | _ :: rest => some (s.takeWhile (· ≠ separator), rest)

/-- What follows the last `separator`. -/
def lastPart (separator : Char) (s : Text) : Text :=
  (s.reverse.takeWhile (· ≠ separator)).reverse

end NanoKvm.Discovery

import Mathlib.Data.List.SplitOn
import Mathlib.Data.List.DropRight

/-!
# The operations on text

What the script grammar asks of `str`, on lists of characters: lines, trimming,
splitting, case and numbers.
-/

set_option autoImplicit false

namespace NanoKvm.Script

/-- Unicode's `White_Space`. -/
def whiteSpace (c : Char) : Bool :=
  let n := c.toNat
  (0x09 ≤ n && n ≤ 0x0D) || n == 0x20 || n == 0x85 || n == 0xA0 || n == 0x1680 ||
    (0x2000 ≤ n && n ≤ 0x200A) || n == 0x2028 || n == 0x2029 || n == 0x202F || n == 0x205F ||
    n == 0x3000

def trimStart (text : List Char) : List Char := text.dropWhile whiteSpace

def trim (text : List Char) : List Char := (trimStart text).rdropWhile whiteSpace

/-- A line that ended in a newline gives up a carriage return before it. -/
def stripReturn (line : List Char) : List Char :=
  if line.getLast? = some '\r' then line.dropLast else line

def linesFrom (line : List Char) : List Char → List (List Char)
  | [] => if line = [] then [] else [line]
  | c :: rest =>
      if c = '\n' then stripReturn line :: linesFrom [] rest else linesFrom (line ++ [c]) rest

/-- `str::lines` -/
def linesOf (source : List Char) : List (List Char) := linesFrom [] source

/-- `split_once(' ')`, or the whole text and nothing. -/
def splitWord (line : List Char) : List Char × List Char :=
  (line.takeWhile (· ≠ ' '), (line.dropWhile (· ≠ ' ')).drop 1)

def eqIgnoreAsciiCase (text other : List Char) : Bool :=
  text.map Char.toLower = other.map Char.toLower

def u64Max : Nat := 18446744073709551615

/-- `str::parse::<u64>`: a sign `+` is allowed, and there is a digit. -/
def parseU64 (text : List Char) : Option Nat :=
  let digits := match text with
    | '+' :: rest => rest
    | _ => text
  if digits = [] || !digits.all Char.isDigit then none
  else
    let value := digits.foldl (fun value c => value * 10 + (c.toNat - '0'.toNat)) 0
    if value ≤ u64Max then some value else none

end NanoKvm.Script

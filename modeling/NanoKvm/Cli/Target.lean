import NanoKvm.Cli.Naming
import NanoKvm.Cli.Shot
import NanoKvm.Lib.Utf8

/-!
# Where a screenshot goes

`ShotTarget::parse` of `cli/shot.rs`, and the names `write_atomically` makes.  A
path is the bytes it is made of, as are its pieces.  The name of a temporary tells
the process that made it, and no target the command takes has such a name.
-/

set_option autoImplicit false

namespace NanoKvm.Cli

open NanoKvm.Lib.Utf8
open NanoKvm.Proto (U8)

abbrev OsPath := List U8

def ascii (text : String) : List U8 := encode text.toList

def slash : U8 := 0x2F#8

def dot : U8 := 0x2E#8

/-- A piece between slashes that names nothing. -/
def Blank (piece : List U8) : Prop := piece = [] ∨ piece = [dot]

instance (piece : List U8) : Decidable (Blank piece) := inferInstanceAs (Decidable (_ ∨ _))

/-- `Path::file_name`. -/
def fileName (path : OsPath) : Option (List U8) :=
  match ((path.splitOn slash).filter fun piece => ¬ Blank piece).getLast? with
  | none => none
  | some name => if name = [dot, dot] then none else some name

/-- The pieces but the blank ones at the end; the first piece tells a root. -/
def trimPieces : List (List U8) → List (List U8)
  | [] => []
  | first :: rest => first :: rest.rdropWhile fun piece => Blank piece

/-- `Path::parent`, of a path with a file name. -/
def parent (path : OsPath) : OsPath :=
  match trimPieces (trimPieces (path.splitOn slash)).dropLast with
  | [] => []
  | [[]] => [slash]
  | pieces => [slash].intercalate pieces

def directory (path : OsPath) : OsPath := if parent path = [] then [dot] else parent path

/-- `Path::join` with a name. -/
def joinName (dir name : OsPath) : OsPath :=
  if dir.getLast? = some slash then dir ++ name else dir ++ [slash] ++ name

/-- `Path::extension`: what follows the last dot of a name, unless nothing precedes it. -/
def extension (name : List U8) : Option (List U8) :=
  match (name.reverse.dropWhile (· ≠ dot)).drop 1 with
  | [] => none
  | _ :: _ => some (name.reverse.takeWhile (· ≠ dot)).reverse

example : (extension (ascii "a.tar.gz"), extension (ascii ".jpg"), extension (ascii "a.")) =
    (some (ascii "gz"), none, some []) := rfl

inductive ShotTarget where
  | stdout
  | jpeg (path : OsPath)
  | png (path : OsPath)
  deriving DecidableEq, Repr

inductive TargetError where
  | noExtension (path : List Char)
  | unsupported (path other : List Char)
  deriving DecidableEq, Repr

def TargetError.display : TargetError → String
  | .noExtension path =>
      String.ofList path ++ " has no extension, so there is nothing to say which format to " ++
        "write. Use .jpg (the device's own bytes) or .png (decoded and re-encoded), or `-` " ++
        "for the JPEG on stdout."
  | .unsupported path other =>
      String.ofList path ++ " asks for a ." ++ String.ofList other ++ " file, and the only " ++
        "formats this writes are .jpg (the device's own bytes) and .png (decoded and " ++
        "re-encoded). `-` writes the JPEG to stdout."

/-- The extension a format is chosen by, without regard to case. -/
def chosenBy (path : OsPath) : List Char :=
  match (fileName path).bind extension with
  | some ext => (lossy ext).map Char.toLower
  | none => []

def ShotTarget.parse (path : Option OsPath) (now : Int) : Except TargetError ShotTarget :=
  match path with
  | none => .ok (.jpeg (encode (defaultName now)))
  | some path =>
      if path = ascii "-" then .ok .stdout
      else
        let ext := chosenBy path
        if ext = "jpg".toList ∨ ext = "jpeg".toList then .ok (.jpeg path)
        else if ext = "png".toList then .ok (.png path)
        else if ext = [] then .error (.noExtension (lossy path))
        else .error (.unsupported (lossy path) ext)

def ShotTarget.label : ShotTarget → String
  | .stdout => "stdout"
  | .jpeg path => String.ofList (lossy path)
  | .png path => String.ofList (lossy path)

/-- The file a target names, if it is one. -/
def ShotTarget.path : ShotTarget → Option OsPath
  | .stdout => none
  | .jpeg path => some path
  | .png path => some path

/-- The name of the temporary that process `pid` writes for a file. -/
def tempName (pid : Nat) (name : List U8) : List U8 :=
  [dot] ++ encode (lossy name) ++ [dot] ++ encode (Nat.toDigits 10 pid) ++ ascii ".tmp"

/-! ## Temporaries and targets are told apart -/

theorem takeWhile_before {α : Type} {p : α → Bool} {first : List α} (pass : ∀ x ∈ first, p x = true)
    {stop : α} (fails : p stop = false) (rest : List α) :
    (first ++ stop :: rest).takeWhile p = first ∧
      (first ++ stop :: rest).dropWhile p = stop :: rest := by
  induction first with
  | nil => simp [fails]
  | cons x first ih =>
      obtain ⟨taken, dropped⟩ := ih fun y inside => pass y (List.mem_cons_of_mem x inside)
      have here := pass x List.mem_cons_self
      exact ⟨by simp [here, taken], by simp [here, dropped]⟩

theorem extension_after {before after : List U8} (pass : ∀ b ∈ after, b ≠ dot)
    (some_before : before ≠ []) : extension (before ++ [dot] ++ after) = some after := by
  have reversed : (before ++ [dot] ++ after).reverse = after.reverse ++ dot :: before.reverse := by
    simp
  have plain : ∀ b ∈ after.reverse, decide (b ≠ dot) = true := fun b inside =>
    decide_eq_true (pass b (List.mem_reverse.mp inside))
  have stops : decide (dot ≠ dot) = false := decide_eq_false fun ne => ne rfl
  obtain ⟨taken, dropped⟩ :=
    takeWhile_before (p := fun b => decide (b ≠ dot)) plain stops before.reverse
  unfold extension
  rw [reversed, taken, dropped]
  have : before.reverse ≠ [] := fun none => some_before (List.reverse_eq_nil_iff.mp none)
  cases shape : before.reverse with
  | nil => exact absurd shape this
  | cons b rest => simp

theorem digits_ne_dot (n : Nat) : ∀ b ∈ encode (Nat.toDigits 10 n), b ≠ dot := by
  have digits : Lib.Digits (Nat.toDigits 10 n) := fun c inside =>
    Nat.isDigit_of_mem_toDigits (by decide) (by decide) inside
  intro b inside
  obtain ⟨c, member, rfl⟩ := mem_encode_ascii
    (fun c member => by have := Lib.isDigit_bounds (digits c member); omega) inside
  have bounds := Lib.isDigit_bounds (digits c member)
  intro same
  have value := congrArg BitVec.toNat same
  rw [BitVec.toNat_ofNat] at value
  change c.toNat % 256 = 46 at value
  omega

theorem encode_injective {text other : List Char} (same : encode text = encode other) :
    text = other := by
  rw [← lossy_encode text, same, lossy_encode]

/-- A temporary tells the process that writes it. -/
theorem tempName_pid {pid other : Nat} {name named : List U8}
    (same : tempName pid name = tempName other named) : pid = other := by
  have stem := List.append_cancel_right same
  have leads : [dot] ++ encode (lossy name) ≠ [] := by simp
  have here := extension_after (digits_ne_dot pid) leads
  rw [stem, extension_after (digits_ne_dot other) (by simp), Option.some.injEq] at here
  have digits := encode_injective here
  rw [← Nat.ofDigitChars_ten_toDigits (n := pid), ← digits, Nat.ofDigitChars_ten_toDigits]

theorem tempName_extension (pid : Nat) (name : List U8) :
    extension (tempName pid name) = some (ascii "tmp") := by
  have tail : ascii ".tmp" = [dot] ++ ascii "tmp" := rfl
  unfold tempName
  rw [tail, ← List.append_assoc]
  exact extension_after (by decide +kernel) (by simp)

/-- The part of a default name between its fixed ends. -/
def nameMiddle (now : Int) : List Char :=
  let moment := utcParts (unixSecs now)
  Lib.padded 4 moment.date.year ++ Lib.padded 2 moment.date.month ++
    Lib.padded 2 moment.date.day ++ ['-'] ++ Lib.padded 2 moment.hour ++
    Lib.padded 2 moment.minute ++ Lib.padded 2 moment.second

theorem defaultName_middle (now : Int) :
    defaultName now = nameStart ++ nameMiddle now ++ nameEnd := by
  simp [defaultName, nameMiddle]

theorem nameMiddle_chars (now : Int) {c : Char} (inside : c ∈ nameMiddle now) :
    c.isDigit = true ∨ c = '-' := by
  unfold nameMiddle at inside
  simp only [List.mem_append, List.mem_singleton] at inside
  obtain ((((((digit | digit) | digit) | dash) | digit) | digit) | digit) := inside
  · exact Or.inl (Lib.padded_digits _ _ c digit)
  · exact Or.inl (Lib.padded_digits _ _ c digit)
  · exact Or.inl (Lib.padded_digits _ _ c digit)
  · exact Or.inr dash
  · exact Or.inl (Lib.padded_digits _ _ c digit)
  · exact Or.inl (Lib.padded_digits _ _ c digit)
  · exact Or.inl (Lib.padded_digits _ _ c digit)

theorem plain_chars {text : List Char}
    (checked : (text.all fun c => decide (c.toNat < 0x80 ∧ c.toNat ≠ 47)) = true) :
    ∀ c ∈ text, c.toNat < 0x80 ∧ c.toNat ≠ 47 := fun c member =>
  of_decide_eq_true (List.all_eq_true.mp checked c member)

/-- No character of a default name is a slash, and all are ASCII. -/
theorem defaultName_plain (now : Int) {c : Char} (inside : c ∈ defaultName now) :
    c.toNat < 0x80 ∧ c.toNat ≠ 47 := by
  rw [defaultName_middle] at inside
  simp only [List.mem_append] at inside
  obtain ((start | middle) | stop) := inside
  · exact plain_chars rfl c start
  · rcases nameMiddle_chars now middle with digit | rfl
    · have := Lib.isDigit_bounds digit
      omega
    · decide
  · exact plain_chars rfl c stop

/-- A text without a slash is the name it is written as. -/
theorem fileName_plain {text : List Char}
    (plain : ∀ c ∈ text, c.toNat < 0x80 ∧ c.toNat ≠ 47) (long : 3 ≤ (encode text).length) :
    fileName (encode text) = some (encode text) := by
  have whole : (encode text).splitOn slash = [encode text] := by
    refine List.splitOnP_eq_singleton fun b inside => ?_
    obtain ⟨c, member, rfl⟩ := mem_encode_ascii (fun c member => (plain c member).1) inside
    have := plain c member
    refine beq_eq_false_iff_ne.mpr fun same => ?_
    have value := congrArg BitVec.toNat same
    rw [BitVec.toNat_ofNat] at value
    change c.toNat % 256 = 47 at value
    omega
  generalize encode text = name at *
  have visible : ¬ Blank name := by
    rintro (rfl | rfl) <;> exact absurd long (by decide)
  have named : name ≠ [dot, dot] := by
    rintro rfl
    exact absurd long (by decide)
  unfold fileName
  rw [whole]
  simp [visible, named]

theorem chosenBy_named {middle : List Char}
    (plain : ∀ c ∈ nameStart ++ middle ++ nameEnd, c.toNat < 0x80 ∧ c.toNat ≠ 47) :
    chosenBy (encode (nameStart ++ middle ++ nameEnd)) = "jpg".toList := by
  have head : encode nameStart = ascii "nanokvm-" := rfl
  have tail : encode nameEnd = [dot] ++ ascii "jpg" := rfl
  have shape : encode (nameStart ++ middle ++ nameEnd) =
      (ascii "nanokvm-" ++ encode middle) ++ [dot] ++ ascii "jpg" := by
    rw [encode_append, encode_append, head, tail, ← List.append_assoc]
  have start : 8 ≤ (ascii "nanokvm-").length := by decide
  have long : 3 ≤ (encode (nameStart ++ middle ++ nameEnd)).length := by
    rw [shape, List.append_assoc, List.append_assoc, List.length_append]
    omega
  have before : ascii "nanokvm-" ++ encode middle ≠ [] := by
    intro none
    rw [(List.append_eq_nil_iff.mp none).1] at start
    cases start
  unfold chosenBy
  rw [fileName_plain plain long, Option.bind_some, shape,
    extension_after (by decide +kernel) before]
  rfl

theorem chosenBy_default (now : Int) : chosenBy (encode (defaultName now)) = "jpg".toList := by
  have plain : ∀ c ∈ nameStart ++ nameMiddle now ++ nameEnd, c.toNat < 0x80 ∧ c.toNat ≠ 47 := by
    intro c inside
    rw [← defaultName_middle] at inside
    exact defaultName_plain now inside
  rw [defaultName_middle]
  exact chosenBy_named plain

/-- What a target is accepted for. -/
def Accepted (ext : List Char) : Prop :=
  ext = "jpg".toList ∨ ext = "jpeg".toList ∨ ext = "png".toList

theorem parse_accepts {path : Option OsPath} {now : Int} {target : ShotTarget} {file : OsPath}
    (parsed : ShotTarget.parse path now = .ok target) (names : target.path = some file) :
    Accepted (chosenBy file) := by
  cases path with
  | none =>
      cases parsed
      cases names
      exact Or.inl (chosenBy_default now)
  | some path =>
      unfold ShotTarget.parse at parsed
      dsimp only at parsed
      split_ifs at parsed with dash jpeg png none
      · cases parsed
        cases names
      · cases parsed
        cases names
        exact jpeg.imp_right Or.inl
      · cases parsed
        cases names
        exact Or.inr (Or.inr png)

/-- No file the command writes is one of its temporaries. -/
theorem accepted_ne_tempName {path : OsPath} (accepted : Accepted (chosenBy path)) :
    ∃ file, fileName path = some file ∧ ∀ pid name, file ≠ tempName pid name := by
  cases named : fileName path with
  | none =>
      unfold chosenBy at accepted
      rw [named] at accepted
      exact absurd accepted (by unfold Accepted; decide)
  | some file =>
      refine ⟨file, rfl, fun pid name same => ?_⟩
      unfold chosenBy at accepted
      rw [named, same, Option.bind_some, tempName_extension] at accepted
      exact absurd accepted (by unfold Accepted; decide)

end NanoKvm.Cli

import NanoKvm.Lib.Utf8
import NanoKvm.Proto.Reply

/-!
# USB strings

`proto/usb_string.rs`, and `get_usb_strings` of `serial/link.rs`.  The bytes are the
device's; what is made of them is shown on a terminal.
-/

set_option autoImplicit false

namespace NanoKvm.Proto

open NanoKvm.Lib.Utf8 (lossy)

inductive UsbStringKind where
  | manufacturer
  | product
  | serial
  deriving DecidableEq, Repr

namespace UsbStringKind

def all : List UsbStringKind := [.manufacturer, .product, .serial]

def requestByte : UsbStringKind → U8
  | .manufacturer => 0#8
  | .product => 1#8
  | .serial => 2#8

def display : UsbStringKind → String
  | .manufacturer => "manufacturer"
  | .product => "product"
  | .serial => "serial"

end UsbStringKind

structure UsbStrings where
  manufacturer : List Char
  product : List Char
  serial : List Char
  deriving DecidableEq, Repr

def UsbStrings.default : UsbStrings := ⟨[], [], []⟩

def UsbStrings.set (strings : UsbStrings) (kind : UsbStringKind) (value : List Char) : UsbStrings :=
  match kind with
  | .manufacturer => { strings with manufacturer := value }
  | .product => { strings with product := value }
  | .serial => { strings with serial := value }

def UsbStrings.get (strings : UsbStrings) : UsbStringKind → List Char
  | .manufacturer => strings.manufacturer
  | .product => strings.product
  | .serial => strings.serial

inductive UsbStringError where
  | empty
  | wrongType (want got : U8)
  deriving DecidableEq, Repr

/-- `char::is_control`. -/
def isControl (c : Char) : Bool := c.toNat < 0x20 || (0x7F ≤ c.toNat && c.toNat < 0xA0)

/-- `char::escape_debug`, of a control character. -/
def escapeDebug (c : Char) : List Char :=
  if c = '\x00' then ['\\', '0']
  else if c = '\t' then ['\\', 't']
  else if c = '\r' then ['\\', 'r']
  else if c = '\n' then ['\\', 'n']
  else ['\\', 'u', '\x7b'] ++ Nat.toDigits 16 c.toNat ++ ['\x7d']

def render (bytes : List U8) : List Char :=
  (lossy bytes).flatMap fun c => if isControl c then escapeDebug c else [c]

/-- The text of a payload after its type byte: a length byte that holds is left out. -/
def usbText : List U8 → List U8
  | length :: tail => if length.toNat = tail.length then tail else length :: tail
  | [] => []

def parseUsbString (kind : UsbStringKind) : List U8 → Except UsbStringError (List Char)
  | [] => .error .empty
  | typeByte :: rest =>
      if typeByte ≠ kind.requestByte then .error (.wrongType kind.requestByte typeByte)
      else .ok (render (usbText rest))

/-- One transaction of `get_usb_strings`, with what it answers. -/
def askUsbString (transact : UsbStringKind → TransactResult) (strings : UsbStrings)
    (kind : UsbStringKind) : Except LinkError UsbStrings :=
  match transact kind with
  | .error e => .error e
  | .ok reply =>
      match parseUsbString kind reply.data with
      | .error _ => .error .io
      | .ok text => .ok (strings.set kind text)

def getUsbStrings (transact : UsbStringKind → TransactResult) : Except LinkError UsbStrings :=
  UsbStringKind.all.foldlM (askUsbString transact) UsbStrings.default

/-! ## What is shown -/

theorem printable_chars {text : List Char} (checked : text.any isControl = false) :
    ∀ c ∈ text, isControl c = false := by
  intro c member
  have unseen := List.any_eq_false.mp checked c member
  simpa using unseen

theorem escapeDebug_printable {c : Char} (control : isControl c = true) :
    ∀ shown ∈ escapeDebug c, isControl shown = false := by
  have digits : ∀ n : Fin 160, (Nat.toDigits 16 n).any isControl = false := by decide +kernel
  have small : c.toNat < 160 := by
    simp only [isControl, Bool.or_eq_true, decide_eq_true_eq, Bool.and_eq_true] at control
    omega
  have opening : ['\\', 'u', '\x7b'].any isControl = false := by decide
  have closing : ['\x7d'].any isControl = false := by decide
  unfold escapeDebug
  split
  · exact printable_chars (by decide)
  split
  · exact printable_chars (by decide)
  split
  · exact printable_chars (by decide)
  split
  · exact printable_chars (by decide)
  intro shown member
  rcases List.mem_append.mp member with front | back
  · rcases List.mem_append.mp front with first | digit
    · exact printable_chars opening shown first
    · exact printable_chars (digits ⟨c.toNat, small⟩) shown digit
  · exact printable_chars closing shown back

/-- Whatever bytes a device sends, no control character of theirs is shown. -/
theorem render_printable (bytes : List U8) : ∀ c ∈ render bytes, isControl c = false := by
  intro c member
  obtain ⟨read, -, shown⟩ := List.mem_flatMap.mp member
  split at shown
  next control => exact escapeDebug_printable control c shown
  next plain =>
    rw [List.mem_singleton.mp shown]
    simpa using plain

theorem render_plain {bytes : List U8} (plain : ∀ c ∈ lossy bytes, isControl c = false) :
    render bytes = lossy bytes := by
  unfold render
  generalize lossy bytes = text at plain
  induction text with
  | nil => rfl
  | cons c text ih =>
      rw [List.flatMap_cons, plain c List.mem_cons_self,
        ih fun c member => plain c (List.mem_cons_of_mem _ member)]
      rfl

theorem render_encode {text : List Char} (printable : ∀ c ∈ text, isControl c = false) :
    render (Lib.Utf8.encode text) = text := by
  have read : lossy (Lib.Utf8.encode text) = text := NanoKvm.Lib.Utf8.lossy_encode text
  rw [render_plain (by rwa [read]), read]

/-- Printable text comes back as it was from a payload with a length byte.  From one without
it, it does so exactly when its own first byte is not the number of those that follow. -/
theorem usb_string_round_trip {text : List Char} (printable : ∀ c ∈ text, isControl c = false)
    (fits : (Lib.Utf8.encode text).length < 256) (kind : UsbStringKind) :
    parseUsbString kind
        (kind.requestByte :: BitVec.ofNat 8 (Lib.Utf8.encode text).length ::
          Lib.Utf8.encode text) = .ok text ∧
      (parseUsbString kind (kind.requestByte :: Lib.Utf8.encode text) = .ok text ↔
        ∀ first rest, Lib.Utf8.encode text = first :: rest → first.toNat ≠ rest.length) := by
  constructor
  · have length : (BitVec.ofNat 8 (Lib.Utf8.encode text).length).toNat =
        (Lib.Utf8.encode text).length := by
      rw [BitVec.toNat_ofNat]
      exact Nat.mod_eq_of_lt fits
    simp only [parseUsbString, ne_eq, not_true_eq_false, if_false, usbText, length, if_true,
      render_encode printable]
  · simp only [parseUsbString, ne_eq, not_true_eq_false, if_false, Except.ok.injEq]
    cases encoded : Lib.Utf8.encode text with
    | nil =>
        have nothing : text = [] := by
          rw [← NanoKvm.Lib.Utf8.lossy_encode text, encoded]
          rfl
        subst nothing
        exact ⟨nofun, fun _ => rfl⟩
    | cons first rest =>
        have only : (∀ first' rest', first :: rest = first' :: rest' →
            first'.toNat ≠ rest'.length) ↔ first.toNat ≠ rest.length := by
          refine ⟨fun every => every first rest rfl, ?_⟩
          rintro apart _ _ ⟨⟩
          exact apart
        rw [only, usbText]
        split
        next length =>
          simp only [length, ne_eq, not_true_eq_false, iff_false]
          obtain ⟨c, tail, orphans, rfl, read, other⟩ :=
            NanoKvm.Lib.Utf8.lossy_decapitated encoded
          have plain : ∀ c ∈ lossy rest, isControl c = false := by
            intro shown member
            rw [read] at member
            rcases List.mem_append.mp member with replaced | kept
            · rw [List.eq_of_mem_replicate replaced]
              decide
            · exact printable shown (List.mem_cons_of_mem _ kept)
          rw [render_plain plain]
          exact other
        next text' =>
          simp only [text', ne_eq, not_false_eq_true, iff_true]
          rw [← encoded]
          exact render_encode printable

/-- Thirty-four bytes, of which the first is 33. -/
def exclaimed : List Char := '!' :: List.replicate 33 'a'

theorem usb_string_round_trip_exclaimed :
    parseUsbString .serial (2#8 :: 34#8 :: Lib.Utf8.encode exclaimed) = .ok exclaimed ∧
      parseUsbString .serial (2#8 :: Lib.Utf8.encode exclaimed) ≠ .ok exclaimed := by
  have printable : ∀ c ∈ exclaimed, isControl c = false := printable_chars rfl
  have facts := usb_string_round_trip printable (by decide) .serial
  refine ⟨facts.1, fun same => ?_⟩
  exact facts.2.mp same 33#8 (List.replicate 33 97#8) rfl rfl

theorem askUsbString_ok {transact : UsbStringKind → TransactResult} {strings next : UsbStrings}
    {kind : UsbStringKind} (asked : askUsbString transact strings kind = .ok next) :
    ∃ reply body, transact kind = .ok reply ∧ reply.data = kind.requestByte :: body ∧
      next = strings.set kind (render (usbText body)) := by
  unfold askUsbString at asked
  split at asked
  · cases asked
  next reply answered =>
    unfold parseUsbString at asked
    split at asked
    · cases asked
    next text parsed =>
      cases asked
      split at parsed
      · cases parsed
      next typeByte body shape =>
        split at parsed
        · cases parsed
        next same =>
          cases parsed
          exact ⟨reply, body, answered, by rw [shape, not_not.mp same], rfl⟩

/-- However replies are delayed or mixed up on the way: strings that are returned were each
read from a reply that names that very string, and nothing in them moves a terminal. -/
theorem usb_strings_not_misfiled {transact : UsbStringKind → TransactResult} {strings : UsbStrings}
    (returned : getUsbStrings transact = .ok strings) (kind : UsbStringKind) :
    ∃ reply body, transact kind = .ok reply ∧ reply.data = kind.requestByte :: body ∧
      strings.get kind = render (usbText body) ∧ ∀ c ∈ strings.get kind, isControl c = false := by
  have peel {first : Except LinkError UsbStrings} {next : UsbStrings → Except LinkError UsbStrings}
      (both : (first >>= next) = .ok strings) :
      ∃ between, first = .ok between ∧ next between = .ok strings := by
    cases first with
    | error e => cases both
    | ok between => exact ⟨between, rfl, both⟩
  simp only [getUsbStrings, UsbStringKind.all, List.foldlM_cons, List.foldlM_nil] at returned
  obtain ⟨one, first, returned⟩ := peel returned
  obtain ⟨two, second, returned⟩ := peel returned
  obtain ⟨three, third, returned⟩ := peel returned
  cases returned
  obtain ⟨manufacturer, manufacturerBody, asked₁, data₁, rfl⟩ := askUsbString_ok first
  obtain ⟨product, productBody, asked₂, data₂, rfl⟩ := askUsbString_ok second
  obtain ⟨serial, serialBody, asked₃, data₃, rfl⟩ := askUsbString_ok third
  cases kind with
  | manufacturer =>
      exact ⟨manufacturer, manufacturerBody, asked₁, data₁, rfl, render_printable _⟩
  | product => exact ⟨product, productBody, asked₂, data₂, rfl, render_printable _⟩
  | serial => exact ⟨serial, serialBody, asked₃, data₃, rfl, render_printable _⟩

/-- Three answers, one of them with a bell in it. -/
def threeAnswers : UsbStringKind → TransactResult
  | .manufacturer => .ok ⟨0x8A#8, [0#8, 2#8, 83#8, 7#8]⟩
  | .product => .ok ⟨0x8A#8, [1#8, 65#8]⟩
  | .serial => .ok ⟨0x8A#8, [2#8]⟩

theorem usb_strings_not_misfiled_bell :
    ∃ strings, getUsbStrings threeAnswers = .ok strings ∧
      ∀ c ∈ strings.get .manufacturer, isControl c = false := by
  have returned : getUsbStrings threeAnswers =
      .ok ⟨['S', '\\', 'u', '\x7b', '7', '\x7d'], ['A'], []⟩ := by rfl
  obtain ⟨reply, body, -, -, -, printable⟩ := usb_strings_not_misfiled returned .manufacturer
  exact ⟨_, returned, printable⟩

end NanoKvm.Proto

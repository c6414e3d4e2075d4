import NanoKvm.Discovery.Path
import NanoKvm.Lib.Transition
import NanoKvm.Proto.Reply

/-!
# Forwarding unsolicited replies

The channels behind `SerialLinkSource` of `serial/source.rs` and
`DiscoveringLinkSource` of `discovery/reopen.rs`.  Every link has a reader and a
forwarder, every node path that was resolved has a source with a pump, and one logger
listens at the end.  Each thread moves one reply at a time, in any order.
-/

set_option autoImplicit false

namespace NanoKvm.Serial.Forward

open NanoKvm.Lib
open NanoKvm.Discovery (Path)
open NanoKvm.Proto (Reply)

/-- A thread that takes from one channel and sends to the next: what waits for it, and the
reply it has taken and not yet sent. -/
structure Forwarder (Item : Type) where
  queue : List Item
  hand : Option Item
  ended : Bool

def Forwarder.fresh {Item : Type} : Forwarder Item := ⟨[], none, false⟩

/-- What is on its way through it, the oldest first. -/
def Forwarder.holds {Item : Type} (forwarder : Forwarder Item) : List Item :=
  forwarder.hand.toList ++ forwarder.queue

/-- The next reply of its loop. -/
def Forwarder.take {Item : Type} (forwarder : Forwarder Item) : Option (Forwarder Item) :=
  match forwarder.ended, forwarder.hand, forwarder.queue with
  | false, none, item :: rest => some { forwarder with queue := rest, hand := some item }
  | _, _, _ => none

/-- One opened link.  `sent` is what its reader passed on; nothing reads it. -/
structure Line where
  source : Nat
  reader : Bool
  forwarder : Forwarder Reply
  sent : List Reply

/-- The sources are numbered as they are built, and the links as they are opened. -/
structure Mesh where
  lines : Nat → Line
  opened : Nat
  pumps : Nat → Forwarder (Nat × Reply)
  built : Nat
  /-- The path of the source in use, which is the last one built. -/
  current : Option Path
  listening : Bool
  heard : List (Nat × Reply)

def Mesh.new : Mesh where
  lines _ := ⟨0, false, .fresh, []⟩
  opened := 0
  pumps _ := .fresh
  built := 0
  current := none
  listening := true
  heard := []

def Mesh.setLine (mesh : Mesh) (i : Nat) (line : Line) : Mesh :=
  { mesh with lines := fun j => if j = i then line else mesh.lines j }

def Mesh.setPump (mesh : Mesh) (t : Nat) (pump : Forwarder (Nat × Reply)) : Mesh :=
  { mesh with pumps := fun u => if u = t then pump else mesh.pumps u }

/-- What happens when a link is opened on a resolved path. -/
structure Opens where
  /-- `rebuild` could spawn its pump. -/
  pump : Bool
  /-- `SerialLink::open_with`. -/
  link : Bool
  /-- The forwarder's thread was spawned. -/
  forwarder : Bool
  deriving DecidableEq, Repr

inductive Label where
  | open_ (path : Path) (opens : Opens)
  /-- The reader of a link routes a frame nobody asked for. -/
  | route (line : Nat) (reply : Reply)
  | readerEnds (line : Nat)
  | take (line : Nat)
  | forward (line : Nat)
  | forwarderEnds (line : Nat)
  | pumpTake (source : Nat)
  | pumpForward (source : Nat)
  | pumpEnds (source : Nat)
  | loggerEnds

/-- `inner_for`: another path gets a source of its own. -/
def Mesh.innerFor (mesh : Mesh) (path : Path) (pump : Bool) : Mesh × Bool :=
  if mesh.current = some path then (mesh, true)
  else if pump then
    ({ mesh.setPump mesh.built .fresh with built := mesh.built + 1, current := some path }, true)
  else (mesh, false)

/-- `DiscoveringLinkSource::open`, once the path is resolved. -/
def Mesh.open_ (mesh : Mesh) (path : Path) (opens : Opens) : Mesh :=
  let (mesh, inner) := mesh.innerFor path opens.pump
  if inner && opens.link && opens.forwarder then
    { mesh.setLine mesh.opened ⟨mesh.built - 1, true, .fresh, []⟩ with opened := mesh.opened + 1 }
  else mesh

/-- The send of `route`: with its receiver gone the frame is counted and dropped. -/
def Mesh.route (mesh : Mesh) (i : Nat) (reply : Reply) : Mesh :=
  let line := mesh.lines i
  if line.forwarder.ended then mesh
  else
    mesh.setLine i
      { line with
        forwarder := { line.forwarder with queue := line.forwarder.queue ++ [reply] }
        sent := line.sent ++ [reply] }

/-- The forwarder sends what it holds, or ends because nobody receives. -/
def Mesh.forward (mesh : Mesh) (i : Nat) : Option Mesh :=
  let line := mesh.lines i
  let pump := mesh.pumps line.source
  line.forwarder.hand.map fun reply =>
    if pump.ended then
      mesh.setLine i { line with forwarder := { line.forwarder with hand := none, ended := true } }
    else
      (mesh.setLine i { line with forwarder := { line.forwarder with hand := none } }).setPump
        line.source { pump with queue := pump.queue ++ [(i, reply)] }

def Mesh.pumpForward (mesh : Mesh) (t : Nat) : Option Mesh :=
  let pump := mesh.pumps t
  pump.hand.map fun item =>
    if mesh.listening then
      { mesh.setPump t { pump with hand := none } with heard := mesh.heard ++ [item] }
    else mesh.setPump t { pump with hand := none, ended := true }

/-- A source's channel has no sender left: the source was replaced and its forwarders ended. -/
def Mesh.orphaned (mesh : Mesh) (t : Nat) : Bool :=
  t + 1 ≠ mesh.built &&
    (List.range mesh.opened).all fun i =>
      (mesh.lines i).source ≠ t || (mesh.lines i).forwarder.ended

def Mesh.step (label : Label) (mesh : Mesh) : Option Mesh :=
  match label with
  | .open_ path opens => some (mesh.open_ path opens)
  | .route i reply =>
      if i < mesh.opened ∧ (mesh.lines i).reader = true then some (mesh.route i reply) else none
  | .readerEnds i =>
      if i < mesh.opened then some (mesh.setLine i { mesh.lines i with reader := false }) else none
  | .take i =>
      if i < mesh.opened then
        (mesh.lines i).forwarder.take.map fun forwarder =>
          mesh.setLine i { mesh.lines i with forwarder }
      else none
  | .forward i => if i < mesh.opened then mesh.forward i else none
  | .forwarderEnds i =>
      let line := mesh.lines i
      if i < mesh.opened ∧ line.reader = false ∧ line.forwarder.holds = [] then
        some (mesh.setLine i { line with forwarder := { line.forwarder with ended := true } })
      else none
  | .pumpTake t =>
      if t < mesh.built then
        (mesh.pumps t).take.map fun pump => mesh.setPump t pump
      else none
  | .pumpForward t => if t < mesh.built then mesh.pumpForward t else none
  | .pumpEnds t =>
      let pump := mesh.pumps t
      if t < mesh.built ∧ mesh.orphaned t = true ∧ pump.holds = [] then
        some (mesh.setPump t { pump with ended := true })
      else none
  | .loggerEnds => some { mesh with listening := false }

/-! ## What one link's replies do -/

/-- The replies of one link among those of many. -/
def ofLine (i : Nat) (items : List (Nat × Reply)) : List Reply :=
  items.filterMap fun item => if item.1 = i then some item.2 else none

@[simp] theorem ofLine_append (i : Nat) (first second : List (Nat × Reply)) :
    ofLine i (first ++ second) = ofLine i first ++ ofLine i second := List.filterMap_append

theorem ofLine_own (i : Nat) (reply : Reply) : ofLine i [(i, reply)] = [reply] := by
  simp [ofLine]

theorem ofLine_other {i : Nat} {items : List (Nat × Reply)} (other : ∀ item ∈ items, item.1 ≠ i) :
    ofLine i items = [] := by
  simp only [ofLine, List.filterMap_eq_nil_iff]
  exact fun item member => if_neg (other item member)

/-- What a link sent that the logger has not heard, the oldest first. -/
def Mesh.waiting (mesh : Mesh) (i : Nat) : List Reply :=
  ofLine i (mesh.pumps (mesh.lines i).source).holds ++ (mesh.lines i).forwarder.holds

structure Mesh.Sound (mesh : Mesh) : Prop where
  /-- Nothing is lost, doubled or overtaken. -/
  flow : ∀ i, ofLine i mesh.heard ++ mesh.waiting i = (mesh.lines i).sent
  /-- A source carries the replies of its own links. -/
  own : ∀ t, ∀ item ∈ (mesh.pumps t).holds,
    item.1 < mesh.opened ∧ (mesh.lines item.1).source = t
  heardOpened : ∀ item ∈ mesh.heard, item.1 < mesh.opened
  source : ∀ i < mesh.opened, (mesh.lines i).source < mesh.built
  unopened : ∀ i, mesh.opened ≤ i → mesh.lines i = ⟨0, false, .fresh, []⟩
  unbuilt : ∀ t, mesh.built ≤ t → mesh.pumps t = .fresh
  ended : ∀ i, (mesh.lines i).forwarder.ended = true →
    (mesh.lines i).reader = false ∧ (mesh.lines i).forwarder.holds = []
  /-- A pump that ended has no forwarder left to serve. -/
  pumped : ∀ t, (mesh.pumps t).ended = true → t + 1 < mesh.built ∧ (mesh.pumps t).holds = [] ∧
    ∀ i < mesh.opened, (mesh.lines i).source = t → (mesh.lines i).forwarder.ended = true
  inUse : ∀ path, mesh.current = some path → 0 < mesh.built

theorem take_holds {Item : Type} {forwarder next : Forwarder Item}
    (taken : forwarder.take = some next) :
    next.holds = forwarder.holds ∧ next.ended = false ∧ forwarder.ended = false := by
  unfold Forwarder.take at taken
  split at taken
  next item rest running empty queued =>
    cases taken
    simp [Forwarder.holds, empty, queued, running]
  · cases taken

theorem Mesh.new_sound : Mesh.new.Sound where
  flow _ := rfl
  own _ _ member := by cases member
  heardOpened _ member := by cases member
  source _ inside := absurd inside (Nat.not_lt_zero _)
  unopened _ _ := rfl
  unbuilt _ _ := rfl
  ended _ past := by cases past
  pumped _ past := by cases past
  inUse _ none := by cases none

section Steps
variable {mesh next : Mesh}

/-- A step of one link's threads that only adds to what it sent. -/
theorem Mesh.Sound.setLine (sound : mesh.Sound) {i : Nat} (inside : i < mesh.opened) {line : Line}
    (source : line.source = (mesh.lines i).source) {more : List Reply}
    (holds : line.forwarder.holds = (mesh.lines i).forwarder.holds ++ more)
    (sent : line.sent = (mesh.lines i).sent ++ more)
    (past : line.forwarder.ended = true → line.reader = false ∧ line.forwarder.holds = [])
    (still : (mesh.lines i).forwarder.ended = true → line.forwarder.ended = true) :
    (mesh.setLine i line).Sound := by
  have sources (j : Nat) : ((mesh.setLine i line).lines j).source = (mesh.lines j).source := by
    by_cases here : j = i
    · simp only [Mesh.setLine, here, if_true, source]
    · simp only [Mesh.setLine, here, if_false]
  refine ⟨fun j => ?_, fun t item member => ?_, sound.heardOpened, fun j opened => ?_,
    fun j beyond => ?_, sound.unbuilt, fun j => ?_, fun t ended => ?_, sound.inUse⟩
  · have flow := sound.flow j
    simp only [Mesh.waiting, sources]
    by_cases here : j = i
    · subst here
      simp only [Mesh.setLine, if_true, holds, sent]
      rw [← flow, Mesh.waiting]
      simp only [List.append_assoc]
    · simpa only [Mesh.setLine, here, if_false, Mesh.waiting] using flow
  · obtain ⟨opened, source⟩ := sound.own t item member
    exact ⟨opened, (sources item.1).trans source⟩
  · rw [sources]
    exact sound.source j opened
  · have apart : j ≠ i := by
      rintro rfl
      exact absurd inside (Nat.not_lt.mpr beyond)
    simp only [Mesh.setLine, apart, if_false]
    exact sound.unopened j beyond
  · by_cases here : j = i
    · simpa only [Mesh.setLine, here, if_true] using past
    · simpa only [Mesh.setLine, here, if_false] using sound.ended j
  · obtain ⟨early, empty, served⟩ := sound.pumped t ended
    refine ⟨early, empty, fun j opened from' => ?_⟩
    rw [sources] at from'
    have done := served j opened from'
    by_cases here : j = i
    · subst here
      simpa only [Mesh.setLine, if_true] using still done
    · simpa only [Mesh.setLine, here, if_false] using done

/-- A step of one link's threads that sends nothing. -/
theorem Mesh.Sound.keepLine (sound : mesh.Sound) {i : Nat} (inside : i < mesh.opened) {line : Line}
    (source : line.source = (mesh.lines i).source)
    (holds : line.forwarder.holds = (mesh.lines i).forwarder.holds)
    (sent : line.sent = (mesh.lines i).sent)
    (past : line.forwarder.ended = true → line.reader = false ∧ line.forwarder.holds = [])
    (still : (mesh.lines i).forwarder.ended = true → line.forwarder.ended = true) :
    (mesh.setLine i line).Sound :=
  sound.setLine inside source (holds.trans (List.append_nil _).symm)
    (sent.trans (List.append_nil _).symm) past still

/-- A step of a pump that keeps what it holds. -/
theorem Mesh.Sound.setPump (sound : mesh.Sound) {t : Nat} (inside : t < mesh.built)
    {pump : Forwarder (Nat × Reply)} (holds : pump.holds = (mesh.pumps t).holds)
    (past : pump.ended = true → t + 1 < mesh.built ∧ pump.holds = [] ∧
      ∀ i < mesh.opened, (mesh.lines i).source = t → (mesh.lines i).forwarder.ended = true) :
    (mesh.setPump t pump).Sound := by
  have held (u : Nat) : ((mesh.setPump t pump).pumps u).holds = (mesh.pumps u).holds := by
    by_cases here : u = t
    · simp only [Mesh.setPump, here, if_true, holds]
    · simp only [Mesh.setPump, here, if_false]
  refine ⟨fun j => ?_, fun u item member => ?_, sound.heardOpened, sound.source, sound.unopened,
    fun u beyond => ?_, sound.ended, fun u ended => ?_, sound.inUse⟩
  · have flow := sound.flow j
    simp only [Mesh.waiting, held]
    exact flow
  · rw [held] at member
    exact sound.own u item member
  · have apart : u ≠ t := by
      rintro rfl
      exact absurd inside (Nat.not_lt.mpr beyond)
    simp only [Mesh.setPump, apart, if_false]
    exact sound.unbuilt u beyond
  · by_cases here : u = t
    · subst here
      simp only [Mesh.setPump, if_true] at ended ⊢
      exact past ended
    · simp only [Mesh.setPump, here, if_false] at ended ⊢
      exact sound.pumped u ended

theorem Mesh.Sound.innerFor (sound : mesh.Sound) (path : Path) (pump : Bool) :
    (mesh.innerFor path pump).1.Sound ∧ ((mesh.innerFor path pump).2 = true →
      (mesh.innerFor path pump).1.current = some path) := by
  unfold Mesh.innerFor
  split
  next here => exact ⟨sound, fun _ => here⟩
  split
  · have same : mesh.setPump mesh.built .fresh = mesh := by
      have pumps : (fun u => if u = mesh.built then .fresh else mesh.pumps u) = mesh.pumps := by
        funext u
        split
        next here => rw [here, sound.unbuilt mesh.built (Nat.le_refl _)]
        · rfl
      rw [Mesh.setPump, pumps]
    rw [same]
    refine ⟨⟨sound.flow, sound.own, sound.heardOpened, ?_, sound.unopened, ?_, sound.ended, ?_, ?_⟩,
      fun _ => rfl⟩
    · exact fun i opened => Nat.lt_succ_of_lt (sound.source i opened)
    · exact fun t beyond => sound.unbuilt t (Nat.le_of_succ_le beyond)
    · intro t ended
      obtain ⟨early, rest⟩ := sound.pumped t ended
      exact ⟨Nat.lt_succ_of_lt early, rest⟩
    · exact fun _ _ => Nat.succ_pos _
  · exact ⟨sound, nofun⟩

/-- A new link hangs on the source in use, which no pump has left. -/
theorem Mesh.Sound.openLine (sound : mesh.Sound) (used : 0 < mesh.built) :
    Mesh.Sound
      { mesh.setLine mesh.opened ⟨mesh.built - 1, true, .fresh, []⟩ with
        opened := mesh.opened + 1 } := by
  have older {j : Nat} (opened : j < mesh.opened) :
      (mesh.setLine mesh.opened ⟨mesh.built - 1, true, .fresh, []⟩).lines j = mesh.lines j := by
    simp only [Mesh.setLine, Nat.ne_of_lt opened, if_false]
  have newest : (mesh.setLine mesh.opened ⟨mesh.built - 1, true, .fresh, []⟩).lines mesh.opened =
      ⟨mesh.built - 1, true, .fresh, []⟩ := by
    simp only [Mesh.setLine, if_true]
  have beyond {j : Nat} (unopened : mesh.opened < j) :
      (mesh.setLine mesh.opened ⟨mesh.built - 1, true, .fresh, []⟩).lines j = mesh.lines j := by
    simp only [Mesh.setLine, Nat.ne_of_gt unopened, if_false]
  refine ⟨fun j => ?_, fun t item member => ?_, fun item member => ?_, fun j opened => ?_,
    fun j unopened => ?_, sound.unbuilt, fun j => ?_, fun t ended => ?_, sound.inUse⟩
  · rw [Mesh.waiting]
    dsimp only
    rcases Nat.lt_trichotomy j mesh.opened with opened | rfl | unopened
    · rw [older opened]
      exact sound.flow j
    · rw [newest]
      have heard : ofLine mesh.opened mesh.heard = [] :=
        ofLine_other fun item member => Nat.ne_of_lt (sound.heardOpened item member)
      have held : ofLine mesh.opened (mesh.pumps (mesh.built - 1)).holds = [] :=
        ofLine_other fun item member => Nat.ne_of_lt (sound.own _ item member).1
      change ofLine _ mesh.heard ++ (ofLine _ (mesh.pumps (mesh.built - 1)).holds ++ []) = []
      rw [heard, held]
      rfl
    · rw [beyond unopened]
      exact sound.flow j
  · obtain ⟨opened, source⟩ := sound.own t item member
    exact ⟨Nat.lt_succ_of_lt opened, by rw [older opened]; exact source⟩
  · exact Nat.lt_succ_of_lt (sound.heardOpened item member)
  · rcases Nat.lt_succ_iff_lt_or_eq.mp opened with earlier | rfl
    · rw [older earlier]
      exact sound.source j earlier
    · rw [newest]
      exact Nat.sub_lt used Nat.one_pos
  · have later : mesh.opened < j := unopened
    rw [beyond later]
    exact sound.unopened j (Nat.le_of_lt later)
  · rcases Nat.lt_trichotomy j mesh.opened with opened | rfl | unopened
    · rw [older opened]
      exact sound.ended j
    · rw [newest]
      exact nofun
    · rw [beyond unopened]
      exact sound.ended j
  · obtain ⟨early, empty, served⟩ := sound.pumped t ended
    refine ⟨early, empty, fun j opened from' => ?_⟩
    rcases Nat.lt_succ_iff_lt_or_eq.mp opened with earlier | rfl
    · rw [older earlier] at from' ⊢
      exact served j earlier from'
    · rw [newest] at from'
      have last : mesh.built - 1 = t := from'
      omega

theorem Mesh.Sound.open_ (sound : mesh.Sound) (path : Path) (opens : Opens) :
    (mesh.open_ path opens).Sound := by
  obtain ⟨inner, current⟩ := sound.innerFor path opens.pump
  unfold Mesh.open_
  split
  next after inUse split_ =>
    rw [split_] at inner current
    split
    next all =>
      have used : inUse = true := by
        cases inUse <;> simp_all
      exact inner.openLine (inner.inUse path (current used))
    · exact inner

/-- The pump a live forwarder sends to still runs. -/
theorem Mesh.Sound.receiving (sound : mesh.Sound) {i : Nat} (inside : i < mesh.opened)
    {reply : Reply} (hand : (mesh.lines i).forwarder.hand = some reply) :
    (mesh.pumps (mesh.lines i).source).ended = false := by
  cases ended : (mesh.pumps (mesh.lines i).source).ended with
  | false => rfl
  | true =>
      have past := (sound.pumped _ ended).2.2 i inside rfl
      have empty := (sound.ended i past).2
      simp [Forwarder.holds, hand] at empty

/-- The reply leaves the forwarder's hand for the end of its source's channel. -/
theorem Mesh.Sound.forward (sound : mesh.Sound) {i : Nat} (inside : i < mesh.opened)
    (forwarded : mesh.forward i = some next) : next.Sound := by
  obtain ⟨reply, hand, rfl⟩ := Option.map_eq_some_iff.mp forwarded
  have receiving : ¬ (mesh.pumps (mesh.lines i).source).ended = true := by
    rw [sound.receiving inside hand]
    nofun
  rw [if_neg receiving]
  generalize moved : Mesh.setPump _ _ _ = after
  have source (j : Nat) : (after.lines j).source = (mesh.lines j).source := by
    rw [← moved]
    by_cases here : j = i <;> simp [Mesh.setPump, Mesh.setLine, here]
  have sent (j : Nat) : (after.lines j).sent = (mesh.lines j).sent := by
    rw [← moved]
    by_cases here : j = i <;> simp [Mesh.setPump, Mesh.setLine, here]
  have past (j : Nat) : (after.lines j).forwarder.ended = (mesh.lines j).forwarder.ended := by
    rw [← moved]
    by_cases here : j = i <;> simp [Mesh.setPump, Mesh.setLine, here]
  have own : (mesh.lines i).forwarder.holds = reply :: (after.lines i).forwarder.holds := by
    rw [← moved]
    simp [Mesh.setPump, Mesh.setLine, Forwarder.holds, hand]
  have others {j : Nat} (apart : j ≠ i) : after.lines j = mesh.lines j := by
    rw [← moved]
    simp [Mesh.setPump, Mesh.setLine, apart]
  have held (u : Nat) : (after.pumps u).holds = (mesh.pumps u).holds ++
      if u = (mesh.lines i).source then [(i, reply)] else [] := by
    rw [← moved]
    by_cases here : u = (mesh.lines i).source <;>
      simp [Mesh.setPump, Mesh.setLine, here, Forwarder.holds]
  have runs (u : Nat) : (after.pumps u).ended = (mesh.pumps u).ended := by
    rw [← moved]
    by_cases here : u = (mesh.lines i).source <;> simp [Mesh.setPump, Mesh.setLine, here]
  have rest : after.opened = mesh.opened ∧ after.built = mesh.built ∧ after.heard = mesh.heard ∧
      after.current = mesh.current := by
    rw [← moved]
    exact ⟨rfl, rfl, rfl, rfl⟩
  obtain ⟨opened, built, heard, current⟩ := rest
  refine ⟨fun j => ?_, fun t item member => ?_, ?_, fun j inside => ?_, fun j beyond => ?_,
    fun t beyond => ?_, fun j ended => ?_, fun t ended => ?_, ?_⟩
  · have flow := sound.flow j
    rw [Mesh.waiting] at flow ⊢
    rw [heard, source, sent, held, ← flow, ofLine_append]
    by_cases here : j = i
    · subst here
      rw [if_pos rfl, ofLine_own, own]
      simp
    · rw [others here]
      have nothing : ofLine j (if (mesh.lines j).source = (mesh.lines i).source then [(i, reply)]
          else []) = [] := by
        refine ofLine_other fun item member => ?_
        split at member
        · obtain rfl := List.mem_singleton.mp member
          exact Ne.symm here
        · cases member
      rw [nothing, List.append_nil]
  · rw [held] at member
    rw [opened, source]
    rcases List.mem_append.mp member with old | new
    · exact sound.own t item old
    · split at new
      next here =>
        obtain rfl := List.mem_singleton.mp new
        exact ⟨inside, here.symm⟩
      · cases new
  · rw [heard, opened]
    exact sound.heardOpened
  · rw [source, built]
    exact sound.source j (opened ▸ inside)
  · rw [opened] at beyond
    rw [others (by omega)]
    exact sound.unopened j beyond
  · rw [built] at beyond
    have apart : t ≠ (mesh.lines i).source := by
      have early := sound.source i inside
      omega
    rw [← moved]
    simp only [Mesh.setPump, apart, if_false]
    exact sound.unbuilt t beyond
  · rw [past] at ended
    have apart : j ≠ i := by
      rintro rfl
      have empty := (sound.ended j ended).2
      rw [own] at empty
      cases empty
    rw [others apart]
    exact sound.ended j ended
  · rw [runs] at ended
    obtain ⟨early, empty, served⟩ := sound.pumped t ended
    have apart : t ≠ (mesh.lines i).source := by
      rintro rfl
      rw [sound.receiving inside hand] at ended
      cases ended
    refine ⟨built ▸ early, by rw [held, if_neg apart, empty]; rfl, fun j inside from' => ?_⟩
    rw [source] at from'
    rw [past]
    exact served j (opened ▸ inside) from'
  · rw [current, built]
    exact sound.inUse

/-- The logger hears the reply the pump held. -/
theorem Mesh.Sound.pumpForward (sound : mesh.Sound) (listening : mesh.listening = true) {t : Nat}
    (inside : t < mesh.built) (forwarded : mesh.pumpForward t = some next) : next.Sound := by
  obtain ⟨item, hand, rfl⟩ := Option.map_eq_some_iff.mp forwarded
  rw [if_pos listening]
  have whole : (mesh.pumps t).holds = item :: (mesh.pumps t).queue := by
    simp [Forwarder.holds, hand]
  obtain ⟨itemOpened, itemSource⟩ := sound.own t item (by rw [whole]; exact List.mem_cons_self)
  have running : (mesh.pumps t).ended = false := by
    cases ended : (mesh.pumps t).ended with
    | false => rfl
    | true =>
        have empty := (sound.pumped t ended).2.1
        rw [whole] at empty
        cases empty
  have held (u : Nat) : ((mesh.setPump t { mesh.pumps t with hand := none }).pumps u).holds =
      if u = t then (mesh.pumps t).queue else (mesh.pumps u).holds := by
    by_cases here : u = t <;> simp [Mesh.setPump, here, Forwarder.holds]
  refine ⟨fun j => ?_, fun u other member => ?_, fun other member => ?_, sound.source,
    sound.unopened, fun u beyond => ?_, sound.ended, fun u ended => ?_, sound.inUse⟩
  · have flow := sound.flow j
    rw [Mesh.waiting] at flow ⊢
    dsimp only
    rw [held, ofLine_append]
    refine Eq.trans ?_ flow
    change _ ++ (ofLine j (if (mesh.lines j).source = t then _ else _) ++
      (mesh.lines j).forwarder.holds) = _
    by_cases from' : (mesh.lines j).source = t
    · have front : ofLine j (item :: (mesh.pumps t).queue) =
          ofLine j [item] ++ ofLine j (mesh.pumps t).queue := ofLine_append j [item] _
      rw [if_pos from', from', whole, front]
      simp only [List.append_assoc]
    · have nothing : ofLine j [item] = [] := by
        refine ofLine_other fun other member => ?_
        obtain rfl := List.mem_singleton.mp member
        rintro rfl
        exact from' itemSource
      rw [if_neg from', nothing, List.append_nil]
      rfl
  · dsimp only at member
    rw [held] at member
    split at member
    next here =>
      subst here
      exact sound.own u other (by rw [whole]; exact List.mem_cons_of_mem _ member)
    · exact sound.own u other member
  · rcases List.mem_append.mp member with old | new
    · exact sound.heardOpened other old
    · obtain rfl := List.mem_singleton.mp new
      exact itemOpened
  · have apart : u ≠ t := by
      rintro rfl
      exact absurd inside (Nat.not_lt.mpr beyond)
    simp only [Mesh.setPump, apart, if_false]
    exact sound.unbuilt u beyond
  · have apart : u ≠ t := by
      rintro rfl
      simp [Mesh.setPump, running] at ended
    simp only [Mesh.setPump, apart, if_false] at ended ⊢
    exact sound.pumped u ended

theorem orphaned_iff {t : Nat} : mesh.orphaned t = true ↔ t + 1 ≠ mesh.built ∧
    ∀ i < mesh.opened, (mesh.lines i).source = t → (mesh.lines i).forwarder.ended = true := by
  simp only [Mesh.orphaned, Bool.and_eq_true, decide_eq_true_eq, List.all_eq_true, List.mem_range,
    Bool.or_eq_true, ne_eq, ← imp_iff_not_or]

theorem Mesh.Sound.step {label : Label} (sound : mesh.Sound) (stepped : mesh.step label = some next)
    (listening : next.listening = true) : next.Sound := by
  cases label with
  | open_ path opens =>
      cases stepped
      exact sound.open_ path opens
  | route i reply =>
      simp only [Mesh.step] at stepped
      split at stepped <;> cases stepped
      next live =>
        unfold Mesh.route
        dsimp only
        split
        · exact sound
        next running =>
          refine sound.setLine live.1 rfl ?_ rfl (fun past => absurd past running) id
          simp [Forwarder.holds]
  | readerEnds i =>
      simp only [Mesh.step] at stepped
      split at stepped <;> cases stepped
      next inside =>
        exact sound.keepLine inside rfl rfl rfl (fun past => ⟨rfl, (sound.ended i past).2⟩) id
  | take i =>
      simp only [Mesh.step] at stepped
      split at stepped
      next inside =>
        obtain ⟨forwarder, taken, rfl⟩ := Option.map_eq_some_iff.mp stepped
        obtain ⟨holds, running, was⟩ := take_holds taken
        refine sound.keepLine inside rfl holds rfl (fun past => ?_) (fun past => ?_)
        · rw [running] at past
          cases past
        · rw [was] at past
          cases past
      · cases stepped
  | forward i =>
      simp only [Mesh.step] at stepped
      split at stepped
      next inside => exact sound.forward inside stepped
      · cases stepped
  | forwarderEnds i =>
      simp only [Mesh.step] at stepped
      split at stepped <;> cases stepped
      next past =>
        obtain ⟨inside, gone, empty⟩ := past
        exact sound.keepLine inside rfl rfl rfl (fun _ => ⟨gone, empty⟩) (fun _ => rfl)
  | pumpTake t =>
      simp only [Mesh.step] at stepped
      split at stepped
      next inside =>
        obtain ⟨pump, taken, rfl⟩ := Option.map_eq_some_iff.mp stepped
        obtain ⟨holds, running, -⟩ := take_holds taken
        refine sound.setPump inside holds fun past => ?_
        rw [running] at past
        cases past
      · cases stepped
  | pumpForward t =>
      simp only [Mesh.step] at stepped
      split at stepped
      next inside =>
        have before : mesh.listening = true := by
          obtain ⟨item, -, rfl⟩ := Option.map_eq_some_iff.mp stepped
          split at listening
          next heard => exact heard
          · exact listening
        exact sound.pumpForward before inside stepped
      · cases stepped
  | pumpEnds t =>
      simp only [Mesh.step] at stepped
      split at stepped <;> cases stepped
      next past =>
        obtain ⟨inside, alone, empty⟩ := past
        obtain ⟨replaced, served⟩ := orphaned_iff.mp alone
        refine sound.setPump inside rfl fun _ => ⟨by omega, empty, served⟩
  | loggerEnds =>
      cases stepped
      cases listening

theorem open_listening (path : Path) (opens : Opens) :
    (mesh.open_ path opens).listening = mesh.listening := by
  have inner : (mesh.innerFor path opens.pump).1.listening = mesh.listening := by
    unfold Mesh.innerFor
    repeat' split
    all_goals rfl
  unfold Mesh.open_
  split
  next after inUse split_ =>
    rw [split_] at inner
    split <;> exact inner

/-- Nobody starts to listen again. -/
theorem step_listening {label : Label} (stepped : mesh.step label = some next)
    (listening : next.listening = true) : mesh.listening = true := by
  cases label with
  | open_ path opens =>
      cases stepped
      rwa [open_listening] at listening
  | route i reply =>
      simp only [Mesh.step] at stepped
      split at stepped <;> cases stepped
      unfold Mesh.route at listening
      dsimp only at listening
      split at listening <;> exact listening
  | readerEnds | forwarderEnds | pumpEnds =>
      simp only [Mesh.step] at stepped
      split at stepped <;> cases stepped
      exact listening
  | take | pumpTake =>
      simp only [Mesh.step] at stepped
      split at stepped
      · obtain ⟨_, -, rfl⟩ := Option.map_eq_some_iff.mp stepped
        exact listening
      · cases stepped
  | forward | pumpForward =>
      simp only [Mesh.step, Mesh.forward, Mesh.pumpForward] at stepped
      split at stepped
      · obtain ⟨_, -, rfl⟩ := Option.map_eq_some_iff.mp stepped
        split at listening
        · exact listening
        · exact listening
      · cases stepped
  | loggerEnds =>
      cases stepped
      cases listening

theorem take_isSome {Item : Type} {forwarder : Forwarder Item} (waits : forwarder.holds ≠ [])
    (running : forwarder.ended = false) :
    forwarder.hand.isSome = true ∨ forwarder.take.isSome = true := by
  obtain ⟨queue, hand, ended⟩ := forwarder
  dsimp only at running
  subst running
  cases hand with
  | some item => exact .inl rfl
  | none =>
      cases queue with
      | nil => exact absurd rfl waits
      | cons item rest => exact .inr rfl

/-- Where something waits, one of the two threads on its way can move. -/
theorem Mesh.Sound.moves (sound : mesh.Sound) {i : Nat} (waits : mesh.waiting i ≠ []) :
    ∃ label ∈ [Label.take i, .forward i, .pumpTake (mesh.lines i).source,
      .pumpForward (mesh.lines i).source], (mesh.step label).isSome = true := by
  have inside : i < mesh.opened := by
    by_contra beyond
    have new := sound.unopened i (Nat.le_of_not_lt beyond)
    have flow := sound.flow i
    rw [new] at flow
    exact waits (List.append_eq_nil_iff.mp flow).2
  by_cases line : (mesh.lines i).forwarder.holds = []
  · have pump : (mesh.pumps (mesh.lines i).source).holds ≠ [] := by
      intro empty
      rw [Mesh.waiting, line, empty] at waits
      exact waits rfl
    have running : (mesh.pumps (mesh.lines i).source).ended = false := by
      rw [← Bool.not_eq_true]
      exact fun ended => pump (sound.pumped _ ended).2.1
    have built := sound.source i inside
    rcases take_isSome pump running with hand | taken
    · exact ⟨.pumpForward (mesh.lines i).source, by simp,
        by simpa [Mesh.step, Mesh.pumpForward, built] using hand⟩
    · exact ⟨.pumpTake (mesh.lines i).source, by simp, by simpa [Mesh.step, built] using taken⟩
  · have running : (mesh.lines i).forwarder.ended = false := by
      rw [← Bool.not_eq_true]
      exact fun ended => line (sound.ended i ended).2
    rcases take_isSome line running with hand | taken
    · exact ⟨.forward i, by simp, by simpa [Mesh.step, Mesh.forward, inside] using hand⟩
    · exact ⟨.take i, by simp, by simpa [Mesh.step, inside] using taken⟩

end Steps

/-- Across reconnects, failed opens and renames of the node, and however the readers,
forwarders and pumps interleave: while the logger listens, what it heard of a link and what
still waits are together what that link's reader passed on, in order and each once; it hears
of no link that was never opened; and whatever waits can move on. -/
theorem unsolicited_replies_arrive {labels : List Label} {mesh : Mesh}
    (ran : run Mesh.step labels Mesh.new = some mesh) (listening : mesh.listening = true) :
    (∀ i, ofLine i mesh.heard ++ mesh.waiting i = (mesh.lines i).sent) ∧
      (∀ item ∈ mesh.heard, item.1 < mesh.opened) ∧
      ∀ i, mesh.waiting i ≠ [] → ∃ label ∈ [Label.take i, .forward i,
        .pumpTake (mesh.lines i).source, .pumpForward (mesh.lines i).source],
        (mesh.step label).isSome = true := by
  have sound : mesh.Sound := by
    refine run_preserves (P := fun mesh : Mesh => mesh.listening = true → mesh.Sound) ?_
      (fun _ => Mesh.new_sound) ran listening
    intro label before after sound stepped listening
    exact (sound (step_listening stepped listening)).step stepped listening
  exact ⟨sound.flow, sound.heardOpened, fun i waits => sound.moves waits⟩

def lockState : Reply := ⟨0x81#8, [0x36#8, 0x01#8, 0x02#8]⟩

/-- A link's push is still on its way when the node comes back renamed. -/
def renamed : List Label :=
  [.open_ (Path.absolute ["dev", "ttyACM0"]) ⟨true, true, true⟩, .route 0 lockState,
    .open_ (Path.absolute ["dev", "ttyACM1"]) ⟨true, false, false⟩, .readerEnds 0, .take 0,
    .open_ (Path.absolute ["dev", "ttyACM1"]) ⟨true, true, true⟩, .forward 0, .forwarderEnds 0,
    .route 1 lockState, .pumpTake 0, .pumpForward 0, .pumpEnds 0]

theorem unsolicited_replies_arrive_renamed :
    ofLine 0 ((run Mesh.step renamed Mesh.new).getD Mesh.new).heard ++
      ((run Mesh.step renamed Mesh.new).getD Mesh.new).waiting 0 = [lockState] := by
  have ran : run Mesh.step renamed Mesh.new =
      some ((run Mesh.step renamed Mesh.new).getD Mesh.new) := run_getD (by decide)
  rw [(unsolicited_replies_arrive ran rfl).1 0]
  rfl

end NanoKvm.Serial.Forward

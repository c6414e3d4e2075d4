import NanoKvm.Discovery.Inventory
import NanoKvm.Lib.Choice

/-!
# What discovery returns

Which combination of a video and a serial node qualifies, and that `discover`
succeeds exactly when one alone does.
-/

set_option autoImplicit false

namespace NanoKvm.Discovery

open NanoKvm.Lib

abbrev Node := Path × UsbDevice

def videoNodes (sysfs : Sysfs) : List Node := classNodes sysfs videoClass videoPrefix

def serialNodes (sysfs : Sysfs) : List Node := classNodes sysfs ttyClass ttyPrefix

/-- Confirmed as capture, or unknown with no confirmed sibling on the same USB device. -/
def Eligible (sysfs : Sysfs) (probe : NodeProbe) (video : Node) : Prop :=
  probe video.1 = .ok true ∨
    (∃ failure : ProbeFailure, probe video.1 = .error failure) ∧
      ∀ sibling ∈ videoNodes sysfs, sibling.2.sysfs = video.2.sysfs → probe sibling.1 ≠ .ok true

structure Qualifies (sysfs : Sysfs) (probe : NodeProbe) (constraints : Constraints)
    (both : Node × Node) : Prop where
  video : both.1 ∈ videoNodes sysfs
  serial : both.2 ∈ serialNodes sysfs
  joined : ∃ evidence : Evidence, Joined sysfs both.1.2 both.2.2 evidence
  eligible : Eligible sysfs probe both.1
  videoNamed : ∀ path, constraints.video = some path → both.1.1 = path
  serialNamed : ∀ path, constraints.serial = some path → both.2.1 = path

/-- A USB device with a video node in some combination that has evidence. -/
def Interesting (sysfs : Sysfs) (dir : Path) : Prop :=
  ∃ video ∈ videoNodes sysfs, video.2.sysfs = dir ∧
    ∃ serial ∈ serialNodes sysfs, ∃ evidence : Evidence, Joined sysfs video.2 serial.2 evidence

section Choice
variable {sysfs : Sysfs} {probe : NodeProbe}

/-! ## The nodes -/

def Node.unprobed (node : Node) : VideoNode := ⟨node.1, some node.2, none, none, false⟩

def Node.serialNode (node : Node) : SerialNode := ⟨node.1, some node.2⟩

theorem collectVideoNodes_eq : collectVideoNodes sysfs = (videoNodes sysfs).map Node.unprobed := rfl

theorem collectSerialNodes_eq :
    collectSerialNodes sysfs = (serialNodes sysfs).map Node.serialNode := rfl

theorem classNode_dev {start : Text} {entry : Path} {node : Node}
    (found : classNode sysfs start entry = some node) :
    ∃ name : Text, entry.fileStr = some name ∧ node.1 = (Path.absolute ["dev"]).join name := by
  obtain ⟨name, named, found⟩ := Option.bind_eq_some_iff.mp found
  split at found
  · obtain ⟨usb, -, found⟩ := Option.bind_eq_some_iff.mp found
    cases found
    exact ⟨name, named, rfl⟩
  · cases found

/-- Entries of one directory whose names read the same are one. -/
theorem fileStr_entry {dir a b : Path} {name : Text} (aIn : a ∈ sysfs.listDir dir)
    (bIn : b ∈ sysfs.listDir dir) (aNamed : a.fileStr = some name)
    (bNamed : b.fileStr = some name) : a = b := by
  have read {entry : Path} (member : entry ∈ sysfs.listDir dir) (named : entry.fileStr = some name) :
      entry = .normal (.text name) :: dir := by
    obtain ⟨raw, rfl⟩ := sysfs.entries dir entry member
    cases raw with
    | text chars =>
        cases Option.some.inj named
        rfl
    | raw bytes => cases named
  rw [read aIn aNamed, read bIn bNamed]

/-- No two nodes of a class have one device path. -/
theorem classNodes_distinct (dir : Path) (start : Text) :
    ((classNodes sysfs dir start).map Prod.fst).Nodup := by
  rw [List.Nodup, List.pairwise_map, classNodes, List.pairwise_filterMap]
  refine (sysfs.distinct dir).imp_of_mem ?_
  intro a b aIn bIn differ node foundA node' foundB same
  obtain ⟨name, named, atA⟩ := classNode_dev foundA
  obtain ⟨name', named', atB⟩ := classNode_dev foundB
  apply differ
  have joined := atA.symm.trans (same.trans atB)
  simp only [Path.join, List.cons.injEq, Component.normal.injEq, OsStr.text.injEq, and_true]
    at joined
  rw [← joined] at named'
  exact fileStr_entry aIn bIn named named'

/-! ## Who is probed -/

def VideoNode.judge (probe : NodeProbe) (interesting : List Path) (node : VideoNode) : VideoNode :=
  if node.isOn interesting then node.probe probe else node

theorem probeNodes_eq (interesting : List Path) (nodes : List VideoNode) :
    probeNodes probe interesting nodes =
      (nodes.map (VideoNode.judge probe interesting),
        (nodes.filter (VideoNode.isOn interesting)).map VideoNode.dev) := by
  induction nodes with
  | nil => rfl
  | cons node rest ih =>
      cases here : node.isOn interesting with
      | true => simp [probeNodes, ih, VideoNode.judge, here]
      | false => simp [probeNodes, ih, VideoNode.judge, here]

variable (sysfs) in
/-- The devices in the code's own list. -/
def interestingDirs : List Path :=
  interestingDevices (collectVideoNodes sysfs)
    (candidates sysfs (collectVideoNodes sysfs) (collectSerialNodes sysfs))

theorem mem_interestingDirs {dir : Path} :
    dir ∈ interestingDirs sysfs ↔ Interesting sysfs dir := by
  have shape : interestingDirs sysfs =
      (collectVideoNodes sysfs ×ˢ collectSerialNodes sysfs).filterMap fun (v, s) =>
        (evidenceBetween sysfs v.usb s.usb).bind fun _ => v.usb.map fun usb => usb.sysfs := by
    refine filterMap_positions
      (f := fun (v : VideoNode) (s : SerialNode) => evidenceBetween sysfs v.usb s.usb)
      (h := fun (v : VideoNode) (_ : SerialNode) _ => v.usb.map fun usb => usb.sysfs) ?_
    intro v i s j evidence here _
    dsimp only
    rw [here, Option.bind_some]
  rw [shape]
  simp only [List.mem_filterMap, collectVideoNodes_eq, collectSerialNodes_eq]
  constructor
  · rintro ⟨⟨v, s⟩, member, found⟩
    obtain ⟨videoIn, serialIn⟩ := List.mem_product.mp member
    obtain ⟨video, videoMem, rfl⟩ := List.mem_map.mp videoIn
    obtain ⟨serial, serialMem, rfl⟩ := List.mem_map.mp serialIn
    obtain ⟨evidence, joined, same⟩ := Option.bind_eq_some_iff.mp found
    exact ⟨video, videoMem, Option.some.inj same, serial, serialMem, evidence,
      (evidenceFor_iff.mp joined).1⟩
  · rintro ⟨video, videoMem, rfl, serial, serialMem, evidence, joined⟩
    obtain ⟨strongest, first⟩ := joined_strongest joined
    refine ⟨(video.unprobed, serial.serialNode), List.mem_product.mpr
      ⟨List.mem_map_of_mem videoMem, List.mem_map_of_mem serialMem⟩, ?_⟩
    apply Option.bind_eq_some_iff.mpr
    exact ⟨strongest, evidenceFor_iff.mpr first, rfl⟩

/-! ## The pairs -/

variable (sysfs probe) in
def judgedNodes : List VideoNode :=
  (collectVideoNodes sysfs).map (VideoNode.judge probe (interestingDirs sysfs))

variable (sysfs probe) in
/-- What the code makes of a combination, if it makes it a pair. -/
def pairOf (both : Node × Node) : Option Pair :=
  (evidenceFor sysfs both.1.2 both.2.2).bind fun evidence =>
    let video := both.1.unprobed.judge probe (interestingDirs sysfs)
    if video.eligible (judgedNodes sysfs probe) then
      some ⟨video, both.2.serialNode, some evidence,
        audioFor video.usb (collectSoundCards sysfs)⟩
    else none

theorem inventory_eq : inventory sysfs probe =
    (⟨judgedNodes sysfs probe, collectSerialNodes sysfs, collectSoundCards sysfs,
        (videoNodes sysfs ×ˢ serialNodes sysfs).filterMap (pairOf sysfs probe)⟩,
      ((collectVideoNodes sysfs).filter (VideoNode.isOn (interestingDirs sysfs))).map
        VideoNode.dev) := by
  have pairs : pairsOf (judgedNodes sysfs probe) (collectSerialNodes sysfs)
      (collectSoundCards sysfs)
      (candidates sysfs (collectVideoNodes sysfs) (collectSerialNodes sysfs)) =
        (videoNodes sysfs ×ˢ serialNodes sysfs).filterMap (pairOf sysfs probe) := by
    refine (filterMap_positions
      (f := fun (v : VideoNode) (s : SerialNode) => evidenceBetween sysfs v.usb s.usb)
      (h := fun (v : VideoNode) (s : SerialNode) evidence =>
        let video := v.judge probe (interestingDirs sysfs)
        if video.eligible (judgedNodes sysfs probe) then
          some ⟨video, s, some evidence, audioFor video.usb (collectSoundCards sysfs)⟩
        else none) ?_).trans ?_
    · intro v i s j evidence video serial
      have judged : (judgedNodes sysfs probe)[i]? =
          some (v.judge probe (interestingDirs sysfs)) := by
        rw [judgedNodes, List.getElem?_map, video]
        rfl
      simp only [judged, serial]
    · rw [collectVideoNodes_eq, collectSerialNodes_eq, product_map, List.filterMap_map]
      rfl
  unfold inventory
  dsimp only
  rw [← pairs, probeNodes_eq]
  rfl

theorem judge_interesting {video : Node} (on : Interesting sysfs video.2.sysfs) :
    video.unprobed.judge probe (interestingDirs sysfs) = video.unprobed.probe probe := by
  have listed : video.unprobed.isOn (interestingDirs sysfs) = true := by
    rw [VideoNode.isOn, Node.unprobed, Option.any_some, List.contains_iff_mem]
    exact mem_interestingDirs.mpr on
  rw [VideoNode.judge, if_pos listed]

theorem probe_isCapture (probe : NodeProbe) (video : Node) :
    (video.unprobed.probe probe).isCapture = (probe video.1).toOption ∧
      (video.unprobed.probe probe).usb = some video.2 := by
  unfold VideoNode.probe Node.unprobed
  split
  · rename_i answer
    dsimp only at answer
    rw [answer]
    exact ⟨rfl, rfl⟩
  · rename_i answer
    dsimp only at answer
    rw [answer]
    exact ⟨rfl, rfl⟩

theorem judge_usb {interesting : List Path} {video : Node} :
    (video.unprobed.judge probe interesting).usb = some video.2 := by
  unfold VideoNode.judge
  split
  · exact (probe_isCapture probe video).2
  · rfl

theorem toOption_eq_true {answer : Except ProbeFailure Bool} :
    answer.toOption = some true ↔ answer = .ok true := by
  cases answer with
  | error failure =>
      constructor
      · intro same
        cases same
      · intro same
        cases same
  | ok verdict =>
      constructor
      · intro same
        cases Option.some.inj same
        rfl
      · intro same
        cases same
        rfl

/-- On an interesting device every sibling is probed too. -/
theorem confirmed_sibling {video : Node} (probe : NodeProbe) (on : Interesting sysfs video.2.sysfs) :
    ((judgedNodes sysfs probe).any fun s => s.isCapture = some true && sameUsb s.usb video.2) =
        true ↔
      ∃ sibling ∈ videoNodes sysfs, sibling.2.sysfs = video.2.sysfs ∧
        probe sibling.1 = .ok true := by
  rw [List.any_eq_true, judgedNodes, collectVideoNodes_eq, List.map_map]
  have judged {sibling : Node} (same : sibling.2.sysfs = video.2.sysfs) :
      (sibling.unprobed.judge probe (interestingDirs sysfs)).isCapture =
        (probe sibling.1).toOption := by
    rw [judge_interesting (same ▸ on)]
    exact (probe_isCapture probe sibling).1
  constructor
  · rintro ⟨node, member, confirmed⟩
    obtain ⟨sibling, here, rfl⟩ := List.mem_map.mp member
    rw [Bool.and_eq_true, decide_eq_true_iff, Function.comp_apply, judge_usb] at confirmed
    obtain ⟨capture, beside⟩ := confirmed
    have same : sibling.2.sysfs = video.2.sysfs := by simpa [sameUsb] using beside
    rw [judged same] at capture
    exact ⟨sibling, here, same, toOption_eq_true.mp capture⟩
  · rintro ⟨sibling, here, same, answer⟩
    refine ⟨_, List.mem_map_of_mem here, ?_⟩
    rw [Bool.and_eq_true, decide_eq_true_iff, Function.comp_apply, judge_usb, judged same, answer]
    exact ⟨rfl, by simpa [sameUsb] using same⟩

theorem eligible_iff {video : Node} (on : Interesting sysfs video.2.sysfs) :
    (video.unprobed.probe probe).eligible (judgedNodes sysfs probe) = true ↔
      Eligible sysfs probe video := by
  obtain ⟨capture, usb⟩ := probe_isCapture probe video
  have siblings := confirmed_sibling probe on
  unfold VideoNode.eligible Eligible
  rw [capture, usb]
  cases answer : probe video.1 with
  | ok verdict =>
      simp [Except.toOption]
  | error failure =>
      simp only [Except.toOption, Bool.not_eq_true', ← Bool.not_eq_true, siblings]
      constructor
      · intro none_
        exact Or.inr ⟨⟨failure, rfl⟩, fun sibling here same confirmed =>
          none_ ⟨sibling, here, same, confirmed⟩⟩
      · rintro (sure | ⟨-, none_⟩)
        · cases sure
        · rintro ⟨sibling, here, same, confirmed⟩
          exact none_ sibling here same confirmed

/-- What the code reports of a combination and its evidence. -/
def report (sysfs : Sysfs) (probe : NodeProbe) (both : Node × Node) (evidence : Evidence) : Pair :=
  ⟨both.1.unprobed.probe probe, both.2.serialNode, some evidence,
    audioFor both.1.2 (collectSoundCards sysfs)⟩

theorem pairOf_iff {both : Node × Node} {pair : Pair} (video : both.1 ∈ videoNodes sysfs)
    (serial : both.2 ∈ serialNodes sysfs) :
    pairOf sysfs probe both = some pair ↔
      Eligible sysfs probe both.1 ∧ ∃ evidence : Evidence,
        Strongest sysfs both.1.2 both.2.2 evidence ∧ pair = report sysfs probe both evidence := by
  simp only [pairOf, Option.bind_eq_some_iff, evidenceFor_iff]
  constructor
  · rintro ⟨evidence, strongest, made⟩
    have on : Interesting sysfs both.1.2.sysfs :=
      ⟨both.1, video, rfl, both.2, serial, evidence, strongest.1⟩
    rw [judge_interesting on, (probe_isCapture probe both.1).2] at made
    split at made
    · rename_i eligible
      cases made
      exact ⟨(eligible_iff on).mp eligible, evidence, strongest, rfl⟩
    · cases made
  · rintro ⟨eligible, evidence, strongest, rfl⟩
    have on : Interesting sysfs both.1.2.sysfs :=
      ⟨both.1, video, rfl, both.2, serial, evidence, strongest.1⟩
    refine ⟨evidence, strongest, ?_⟩
    rw [judge_interesting on, if_pos ((eligible_iff on).mpr eligible),
      (probe_isCapture probe both.1).2]
    rfl

/-! ## The constraints -/

/-- Whether a pair is what the user named, so far as anything was named. -/
def Pair.named (constraints : Constraints) (pair : Pair) : Bool :=
  constraints.video.all (fun path => pair.video.dev = path) &&
    constraints.serial.all fun path => pair.serial.dev = path

theorem onePair_eq_ok {inv : Inventory} {kind : NodeKind} {path : Path} {pair : Pair} :
    inv.onePair kind path = .ok pair ↔ inv.pairs = [pair] := by
  unfold Inventory.onePair
  split
  · rename_i only shape
    rw [shape]
    simp
  · rename_i shape
    rw [shape]
    simp
  · rename_i several _
    constructor
    · intro found
      cases found
    · intro shape
      exact absurd shape (several pair)

/-- With no pair among those named there is nothing to return. -/
theorem named_nil {inv : Inventory} {constraints : Constraints} {pair : Pair}
    (nothing : ∀ p ∈ inv.pairs, p.named constraints = false) :
    inv.pairs.filter (Pair.named constraints) ≠ [pair] := by
  rw [List.filter_eq_nil_iff.mpr fun p member => by rw [nothing p member]; exact Bool.false_ne_true]
  exact List.cons_ne_nil pair [] ∘ Eq.symm

theorem named_one (path : Path) :
    Pair.named ⟨some path, none⟩ = (fun p => decide (p.video.dev = path)) ∧
      Pair.named ⟨none, some path⟩ = fun p => decide (p.serial.dev = path) := by
  constructor
  · funext p
    simp [Pair.named]
  · funext p
    simp [Pair.named]

section Verdict
variable {inv : Inventory} {pair : Pair} {path : Path}

theorem choose_video (videos : ∀ p ∈ inv.pairs, p.video ∈ inv.videos) :
    (inv.findVideo path >>= fun v =>
        (inv.retainingPairs fun p => p.video.dev = v.dev).onePair .video v.dev) = .ok pair ↔
      inv.pairs.filter (Pair.named ⟨some path, none⟩) = [pair] := by
  unfold Inventory.findVideo Inventory.video
  cases found : inv.videos.find? fun v => v.dev = path with
  | none =>
      refine iff_of_false (fun h => by cases h) (named_nil fun p member => ?_)
      have away := List.find?_eq_none.mp found p.video (videos p member)
      simpa [Pair.named] using away
  | some v =>
      have here : v.dev = path := by simpa using List.find?_some found
      dsimp only [bind, Except.bind]
      rw [onePair_eq_ok, here, (named_one path).1]
      rfl

theorem choose_serial (serials : ∀ p ∈ inv.pairs, p.serial ∈ inv.serials) :
    (inv.findSerial path >>= fun s =>
        (inv.retainingPairs fun p => p.serial.dev = s.dev).onePair .serial s.dev) = .ok pair ↔
      inv.pairs.filter (Pair.named ⟨none, some path⟩) = [pair] := by
  unfold Inventory.findSerial Inventory.serial
  cases found : inv.serials.find? fun s => s.dev = path with
  | none =>
      refine iff_of_false (fun h => by cases h) (named_nil fun p member => ?_)
      have away := List.find?_eq_none.mp found p.serial (serials p member)
      simpa [Pair.named] using away
  | some s =>
      have here : s.dev = path := by simpa using List.find?_some found
      dsimp only [bind, Except.bind]
      rw [onePair_eq_ok, here, (named_one path).2]
      rfl

theorem choose_any :
    (match inv.pairs with
      | [pair] => .ok pair
      | [] => .error (.noPair inv)
      | _ => .error inv.ambiguous) = (.ok pair : Except DiscoveryError Pair) ↔
      inv.pairs.filter (Pair.named ⟨none, none⟩) = [pair] := by
  have all : inv.pairs.filter (Pair.named ⟨none, none⟩) = inv.pairs :=
    List.filter_eq_self.mpr fun _ _ => rfl
  rw [all]
  split
  · rename_i only shape
    rw [shape]
    simp
  · rename_i shape
    rw [shape]
    simp
  · rename_i several _
    exact iff_of_false (fun h => by cases h) (several pair)

/-- Where a class has no nodes there are no pairs either. -/
theorem choose_guarded {constraints : Constraints} {verdict : Except DiscoveryError Pair}
    (videos : ∀ p ∈ inv.pairs, p.video ∈ inv.videos)
    (serials : ∀ p ∈ inv.pairs, p.serial ∈ inv.serials)
    (rest : verdict = .ok pair ↔ inv.pairs.filter (Pair.named constraints) = [pair]) :
    (if inv.videos.isEmpty then .error .noVideoNodes
      else if inv.serials.isEmpty then .error .noSerialNodes
      else verdict) = .ok pair ↔ inv.pairs.filter (Pair.named constraints) = [pair] := by
  split
  · rename_i empty
    refine iff_of_false (fun h => by cases h) (named_nil fun p member => ?_)
    have gone := videos p member
    rw [List.isEmpty_iff.mp empty] at gone
    cases gone
  split
  · rename_i empty
    refine iff_of_false (fun h => by cases h) (named_nil fun p member => ?_)
    have gone := serials p member
    rw [List.isEmpty_iff.mp empty] at gone
    cases gone
  · exact rest

/-- With at most one constraint: a lone pair among those it names. -/
theorem choose_eq_ok {constraints : Constraints}
    (one : constraints.video = none ∨ constraints.serial = none)
    (videos : ∀ p ∈ inv.pairs, p.video ∈ inv.videos)
    (serials : ∀ p ∈ inv.pairs, p.serial ∈ inv.serials) :
    choose sysfs inv constraints = .ok pair ↔
      inv.pairs.filter (Pair.named constraints) = [pair] := by
  obtain ⟨video, serial⟩ := constraints
  cases video with
  | none =>
      cases serial with
      | none => exact choose_guarded videos serials choose_any
      | some path => exact choose_guarded videos serials (choose_serial serials)
  | some path =>
      cases serial with
      | none => exact choose_guarded videos serials (choose_video videos)
      | some other =>
          dsimp only at one
          rcases one with one | one
          · cases one
          · cases one

end Verdict

/-! ## The one that qualifies -/

theorem judge_dev {interesting : List Path} {video : Node} :
    (video.unprobed.judge probe interesting).dev = video.1 := by
  unfold VideoNode.judge VideoNode.probe
  split
  · split <;> rfl
  · rfl

/-- A pair tells which combination it is of. -/
theorem pairOf_both {both : Node × Node} {pair : Pair}
    (made : pairOf sysfs probe both = some pair) :
    pair.video = both.1.unprobed.judge probe (interestingDirs sysfs) ∧
      pair.serial = both.2.serialNode := by
  obtain ⟨evidence, -, made⟩ := Option.bind_eq_some_iff.mp made
  dsimp only at made
  split at made
  · cases made
    exact ⟨rfl, rfl⟩
  · cases made

theorem pairOf_injective {a b : Node × Node} {pair : Pair}
    (first : pairOf sysfs probe a = some pair) (second : pairOf sysfs probe b = some pair) :
    a = b := by
  obtain ⟨video, serial⟩ := pairOf_both first
  obtain ⟨video', serial'⟩ := pairOf_both second
  have judged := video.symm.trans video'
  have devs := congrArg VideoNode.dev judged
  have usbs := congrArg VideoNode.usb judged
  rw [judge_dev, judge_dev] at devs
  rw [judge_usb, judge_usb] at usbs
  have serials := serial.symm.trans serial'
  simp only [Node.serialNode, SerialNode.mk.injEq, Option.some.injEq] at serials
  exact Prod.ext (Prod.ext devs (Option.some.inj usbs)) (Prod.ext serials.1 serials.2)

theorem pairs_nodup :
    ((videoNodes sysfs ×ˢ serialNodes sysfs).filterMap (pairOf sysfs probe)).Nodup := by
  have videos : (videoNodes sysfs).Nodup := (classNodes_distinct _ _).of_map
  have serials : (serialNodes sysfs).Nodup := (classNodes_distinct _ _).of_map
  exact (videos.product serials).filterMap fun _ _ _ first second => pairOf_injective first second

theorem probe_dev {video : Node} : (video.unprobed.probe probe).dev = video.1 := by
  unfold VideoNode.probe
  split <;> rfl

theorem mem_named {constraints : Constraints} {pair : Pair} :
    pair ∈ ((videoNodes sysfs ×ˢ serialNodes sysfs).filterMap (pairOf sysfs probe)).filter
        (Pair.named constraints) ↔
      ∃ both : Node × Node, Qualifies sysfs probe constraints both ∧ ∃ evidence : Evidence,
        Strongest sysfs both.1.2 both.2.2 evidence ∧ pair = report sysfs probe both evidence := by
  have names (both : Node × Node) (evidence : Evidence) :
      (report sysfs probe both evidence).named constraints = true ↔
        (∀ path, constraints.video = some path → both.1.1 = path) ∧
          ∀ path, constraints.serial = some path → both.2.1 = path := by
    rw [Pair.named, Bool.and_eq_true, Option.all_eq_true, Option.all_eq_true]
    refine and_congr (forall_congr' fun path => imp_congr_right fun _ => ?_)
      (forall_congr' fun path => imp_congr_right fun _ => ?_)
    · rw [decide_eq_true_iff, report, probe_dev]
    · exact decide_eq_true_iff
  rw [List.mem_filter, List.mem_filterMap]
  constructor
  · rintro ⟨⟨both, member, made⟩, named⟩
    obtain ⟨video, serial⟩ := List.mem_product.mp member
    obtain ⟨eligible, evidence, strongest, rfl⟩ := (pairOf_iff video serial).mp made
    obtain ⟨videoNamed, serialNamed⟩ := (names both evidence).mp named
    exact ⟨both, ⟨video, serial, ⟨evidence, strongest.1⟩, eligible, videoNamed, serialNamed⟩,
      evidence, strongest, rfl⟩
  · rintro ⟨both, qualifies, evidence, strongest, rfl⟩
    refine ⟨⟨both, List.mem_product.mpr ⟨qualifies.video, qualifies.serial⟩, ?_⟩, ?_⟩
    · apply (pairOf_iff qualifies.video qualifies.serial).mpr
      exact ⟨qualifies.eligible, evidence, strongest, rfl⟩
    · apply (names both evidence).mpr
      exact ⟨qualifies.videoNamed, qualifies.serialNamed⟩

theorem strongest_unique {video serial : UsbDevice} {a b : Evidence}
    (first : Strongest sysfs video serial a) (second : Strongest sysfs video serial b) : a = b :=
  Option.some.inj ((evidenceFor_iff.mpr first).symm.trans (evidenceFor_iff.mpr second))

theorem discover_ok_iff {constraints : Constraints} {pair : Pair}
    (one : constraints.video = none ∨ constraints.serial = none) :
    (discover sysfs probe constraints).1 = .ok pair ↔
      ∃ both : Node × Node, Qualifies sysfs probe constraints both ∧
        (∀ other, Qualifies sysfs probe constraints other → other = both) ∧
        ∃ evidence : Evidence, Strongest sysfs both.1.2 both.2.2 evidence ∧
          pair = report sysfs probe both evidence := by
  let pairs := (videoNodes sysfs ×ˢ serialNodes sysfs).filterMap (pairOf sysfs probe)
  have lone : (discover sysfs probe constraints).1 = .ok pair ↔
      pairs.filter (Pair.named constraints) = [pair] := by
    unfold discover
    rw [inventory_eq]
    apply choose_eq_ok one
    · intro p member
      obtain ⟨both, inside, made⟩ := List.mem_filterMap.mp member
      rw [(pairOf_both made).1]
      apply List.mem_map_of_mem
      exact List.mem_map_of_mem (List.mem_product.mp inside).1
    · intro p member
      obtain ⟨both, inside, made⟩ := List.mem_filterMap.mp member
      rw [(pairOf_both made).2]
      exact List.mem_map_of_mem (List.mem_product.mp inside).2
  rw [lone]
  constructor
  · intro single
    have here : pair ∈ pairs.filter (Pair.named constraints) := by
      rw [single]
      exact List.mem_singleton_self pair
    obtain ⟨both, qualifies, evidence, strongest, made⟩ := mem_named.mp here
    refine ⟨both, qualifies, fun other also => ?_, evidence, strongest, made⟩
    obtain ⟨found, joined⟩ := also.joined
    obtain ⟨strongest', first⟩ := joined_strongest joined
    have there : report sysfs probe other strongest' ∈ pairs.filter (Pair.named constraints) :=
      mem_named.mpr ⟨other, also, strongest', first, rfl⟩
    rw [single, List.mem_singleton] at there
    have theirs : pairOf sysfs probe other = some pair :=
      (pairOf_iff also.video also.serial).mpr ⟨also.eligible, strongest', first, there.symm⟩
    have ours : pairOf sysfs probe both = some pair :=
      (pairOf_iff qualifies.video qualifies.serial).mpr
        ⟨qualifies.eligible, evidence, strongest, made⟩
    exact pairOf_injective theirs ours
  · rintro ⟨both, qualifies, only, evidence, strongest, made⟩
    have here : pair ∈ pairs.filter (Pair.named constraints) :=
      mem_named.mpr ⟨both, qualifies, evidence, strongest, made⟩
    have unique : ∃! p, p ∈ pairs.filter (Pair.named constraints) := by
      refine ⟨pair, here, fun p member => ?_⟩
      obtain ⟨other, also, evidence', strongest', rfl⟩ := mem_named.mp member
      cases only other also
      rw [strongest_unique strongest' strongest]
      exact made.symm
    obtain ⟨p, single⟩ := (singleton_iff_existsUnique (pairs_nodup.filter _)).mpr unique
    rw [single, List.mem_singleton] at here
    rw [single, here]

/-! ## What it does not depend on -/

/-- The entry of a sound card in its class. -/
def IsCard (entry : Path) : Prop := ∃ number : Text, entry = soundClass.join (cardPrefix ++ number)

/-- A link that only a sound card is read through.  The peer of a port is read through
its `device` too, should one lead there. -/
def CardLink (sysfs : Sysfs) (path : Path) : Prop :=
  ∃ card : Path, IsCard card ∧
    (path = card ∨ path = card.join "device".toList ∧
      ∀ port : Path, sysfs.readLink (port.join "peer".toList) ≠ some card)

/-- Two trees with the same nodes, in whatever order their classes list them, and with
whatever sound cards.  Only of a card is an `id` read. -/
structure SameNodes (a b : Sysfs) : Prop where
  attrs : ∀ dir name, name ≠ "id".toList → b.readAttr dir name = a.readAttr dir name
  links : ∀ path, ¬ CardLink a path → b.readLink path = a.readLink path
  usb : ∀ dir, b.isUsb dir = a.isUsb dir
  videos : (b.listDir videoClass).Perm (a.listDir videoClass)
  ttys : (b.listDir ttyClass).Perm (a.listDir ttyClass)

section Same
variable {other : Sysfs}

theorem IsCard.join {dir : Path} {name : Text} (card : IsCard (dir.join name)) :
    dir = soundClass ∧ cardPrefix <+: name := by
  obtain ⟨number, same⟩ := card
  cases same
  exact ⟨rfl, List.prefix_append _ _⟩

theorem peer_not_cardLink (port : Path) : ¬ CardLink sysfs (port.join "peer".toList) := by
  rintro ⟨card, isCard, rfl | ⟨same, -⟩⟩
  · exact absurd isCard.join.2 (by decide)
  · cases same

theorem device_cardLink {entry : Path} (link : CardLink sysfs (entry.join "device".toList)) :
    IsCard entry ∧ ∀ port : Path, sysfs.readLink (port.join "peer".toList) ≠ some entry := by
  obtain ⟨card, isCard, rfl | ⟨same, alone⟩⟩ := link
  · exact absurd isCard.join.2 (by decide)
  · cases same
    exact ⟨isCard, alone⟩

theorem SameNodes.peer (same : SameNodes sysfs other) (port : Path) :
    other.readLink (port.join "peer".toList) = sysfs.readLink (port.join "peer".toList) :=
  same.links _ (peer_not_cardLink port)

theorem SameNodes.peerDevice (same : SameNodes sysfs other) {port peer : Path}
    (linked : sysfs.readLink (port.join "peer".toList) = some peer) :
    other.readLink (peer.join "device".toList) = sysfs.readLink (peer.join "device".toList) :=
  same.links _ fun link => (device_cardLink link).2 port linked

theorem SameNodes.symm (same : SameNodes sysfs other) : SameNodes other sysfs where
  attrs dir name notId := (same.attrs dir name notId).symm
  links path notCard := by
    refine (same.links path fun link => notCard ?_).symm
    obtain ⟨card, isCard, here | ⟨here, alone⟩⟩ := link
    · exact ⟨card, isCard, Or.inl here⟩
    · exact ⟨card, isCard, Or.inr ⟨here, fun port => by rw [same.peer]; exact alone port⟩⟩
  usb dir := (same.usb dir).symm
  videos := same.videos.symm
  ttys := same.ttys.symm

theorem SameNodes.usbAbove (same : SameNodes sysfs other) (path : Path) :
    other.usbAbove path = sysfs.usbAbove path := by
  induction path with
  | nil => simp only [Sysfs.usbAbove, same.usb]
  | cons component up ih => simp only [Sysfs.usbAbove, same.usb, ih]

theorem SameNodes.readUsbDevice (same : SameNodes sysfs other) (dir : Path) :
    other.readUsbDevice dir = sysfs.readUsbDevice dir := by
  have attr (name : Text) (notId : name ≠ "id".toList) :
      other.readAttr dir name = sysfs.readAttr dir name := same.attrs dir name notId
  unfold Sysfs.readUsbDevice
  rw [attr "idVendor".toList (by decide), attr "idProduct".toList (by decide),
    attr "product".toList (by decide), attr "serial".toList (by decide),
    attr "speed".toList (by decide), attr "busnum".toList (by decide),
    attr "devnum".toList (by decide)]

/-- An entry of another class is read alike. -/
theorem SameNodes.classNodes (same : SameNodes sysfs other) {dir : Path} (start : Text)
    (silent : dir ≠ soundClass) (listed : (other.listDir dir).Perm (sysfs.listDir dir)) :
    (classNodes other dir start).Perm (classNodes sysfs dir start) := by
  refine (listed.filterMap _).trans (List.Perm.of_eq (List.filterMap_congr ?_))
  intro entry member
  obtain ⟨name, rfl⟩ := sysfs.entries dir entry member
  have notCard : ¬ CardLink sysfs (Path.join (.normal name :: dir) "device".toList) := by
    intro link
    obtain ⟨number, here⟩ := (device_cardLink link).1
    exact silent (List.cons.inj here).2
  simp only [classNode, Sysfs.usbDeviceOf, same.links _ notCard, same.usbAbove,
    same.readUsbDevice]

theorem SameNodes.nodes (same : SameNodes sysfs other) {node : Node} :
    (node ∈ videoNodes other ↔ node ∈ videoNodes sysfs) ∧
      (node ∈ serialNodes other ↔ node ∈ serialNodes sysfs) := by
  constructor
  · exact (same.classNodes videoPrefix (by decide) same.videos).mem_iff
  · exact (same.classNodes ttyPrefix (by decide) same.ttys).mem_iff

theorem SameNodes.joins (same : SameNodes sysfs other) {video serial : UsbDevice}
    {evidence : Evidence} (joined : Joined sysfs video serial evidence) :
    Joined other video serial evidence := by
  cases evidence with
  | sameDevice => exact joined
  | portPeer videoPort peerPort =>
      obtain ⟨port, peer, device, atPort, linked, found, rest⟩ := joined
      refine ⟨port, peer, device, atPort, ?_, ?_, rest⟩
      · rw [same.peer]
        exact linked
      · rw [same.peerDevice linked]
        exact found
  | internalHub hub =>
      obtain ⟨videoKnown, serialKnown, hubKnown, dir, above, beside, usb, read⟩ := joined
      refine ⟨videoKnown, serialKnown, hubKnown, dir, above, beside, ?_, ?_⟩
      · rw [same.usb]
        exact usb
      · rw [same.readUsbDevice]
        exact read

theorem SameNodes.joined (same : SameNodes sysfs other) (video serial : UsbDevice) :
    Joined other video serial = Joined sysfs video serial := by
  funext evidence
  exact propext ⟨same.symm.joins, same.joins⟩

theorem SameNodes.qualifies (same : SameNodes sysfs other) {constraints : Constraints}
    {both : Node × Node} (qualifies : Qualifies sysfs probe constraints both) :
    Qualifies other probe constraints both where
  video := same.nodes.1.mpr qualifies.video
  serial := same.nodes.2.mpr qualifies.serial
  joined := by
    rw [same.joined]
    exact qualifies.joined
  eligible := by
    refine qualifies.eligible.imp id (And.imp id fun none_ sibling here => ?_)
    exact none_ sibling (same.nodes.1.mp here)
  videoNamed := qualifies.videoNamed
  serialNamed := qualifies.serialNamed

end Same

/-- The nodes and the evidence returned. -/
def selection : Except DiscoveryError Pair → Option (VideoNode × SerialNode × Option Evidence)
  | .ok pair => some (pair.video, pair.serial, pair.evidence)
  | .error _ => none

theorem SameNodes.selection {other : Sysfs} {constraints : Constraints} {pair : Pair}
    (same : SameNodes sysfs other)
    (one : constraints.video = none ∨ constraints.serial = none)
    (found : (discover sysfs probe constraints).1 = .ok pair) :
    selection (discover other probe constraints).1 =
      some (pair.video, pair.serial, pair.evidence) := by
  obtain ⟨both, qualifies, only, evidence, strongest, rfl⟩ := (discover_ok_iff one).mp found
  have again : (discover other probe constraints).1 = .ok (report other probe both evidence) := by
    apply (discover_ok_iff one).mpr
    refine ⟨both, same.qualifies qualifies, fun also qualifies' => ?_, evidence, ?_, rfl⟩
    · exact only also (same.symm.qualifies qualifies')
    · rw [Strongest, same.joined]
      exact strongest
  rw [again]
  rfl

/-- With at most one path given, discovery returns the one combination that qualifies, with
the strongest rule that joins it; it probes only what is joined, and neither the sound cards
nor the order of listings matter. -/
theorem discover_pairs (sysfs : Sysfs) (probe : NodeProbe) (constraints : Constraints)
    (one : constraints.video = none ∨ constraints.serial = none) :
    ((∃ pair, (discover sysfs probe constraints).1 = .ok pair) ↔
      ∃! both : Node × Node, Qualifies sysfs probe constraints both) ∧
    (∀ pair, (discover sysfs probe constraints).1 = .ok pair →
      ∃ both : Node × Node, Qualifies sysfs probe constraints both ∧ ∃ evidence : Evidence,
        Strongest sysfs both.1.2 both.2.2 evidence ∧ pair = report sysfs probe both evidence) ∧
    (∀ dev ∈ (discover sysfs probe constraints).2, ∃ video ∈ videoNodes sysfs,
      video.1 = dev ∧ Interesting sysfs video.2.sysfs) ∧
    ∀ other : Sysfs, SameNodes sysfs other →
      selection (discover other probe constraints).1 =
        selection (discover sysfs probe constraints).1 := by
  refine ⟨⟨?_, ?_⟩, ?_, ?_, ?_⟩
  · rintro ⟨pair, found⟩
    obtain ⟨both, qualifies, only, -⟩ := (discover_ok_iff one).mp found
    exact ⟨both, qualifies, only⟩
  · rintro ⟨both, qualifies, only⟩
    obtain ⟨joined, rule⟩ := qualifies.joined
    obtain ⟨evidence, strongest⟩ := joined_strongest rule
    exact ⟨_, (discover_ok_iff one).mpr ⟨both, qualifies, only, evidence, strongest, rfl⟩⟩
  · intro pair found
    obtain ⟨both, qualifies, -, evidence, strongest, made⟩ := (discover_ok_iff one).mp found
    exact ⟨both, qualifies, evidence, strongest, made⟩
  · intro dev member
    change dev ∈ (inventory sysfs probe).2 at member
    rw [inventory_eq] at member
    obtain ⟨node, asked, rfl⟩ := List.mem_map.mp member
    obtain ⟨collected, on⟩ := List.mem_filter.mp asked
    rw [collectVideoNodes_eq] at collected
    obtain ⟨video, here, rfl⟩ := List.mem_map.mp collected
    refine ⟨video, here, rfl, mem_interestingDirs.mp ?_⟩
    simpa [VideoNode.isOn, Node.unprobed] using on
  · intro other same
    cases here : (discover sysfs probe constraints).1 with
    | ok pair => exact same.selection one here
    | error _ =>
        cases there : (discover other probe constraints).1 with
        | ok pair =>
            have back := same.symm.selection one there
            rw [here] at back
            cases back
        | error _ => rfl

end Choice

/-! ## A desk with one dongle -/

def deskHub : Path := .absolute ["devices", "usb3", "3-2"]

def deskDevice (name : String) : Path := deskHub.join name.toList

/-- The hub, the capture function and the serial bridge. -/
def deskAttrs : List (Path × List (String × String)) :=
  [(deskHub, [("idVendor", "1a40"), ("idProduct", "0101"), ("devnum", "2")]),
    (deskDevice "3-2.1", [("idVendor", "345f"), ("idProduct", "2133"), ("devnum", "3")]),
    (deskDevice "3-2.2", [("idVendor", "1a86"), ("idProduct", "55d3"), ("devnum", "4")])]

def deskAttr (dir : Path) (name : Text) : Option Text :=
  (deskAttrs.find? fun entry => entry.1 = dir).bind fun entry =>
    (entry.2.find? fun attr => attr.1.toList = name).map fun attr => attr.2.toList

/-- A capture node, its metadata sibling and a serial node. -/
def desk : Sysfs where
  readAttr := deskAttr
  readLink path :=
    if path = (videoClass.join "video0".toList).join "device".toList ∨
        path = (videoClass.join "video1".toList).join "device".toList then
      some ((deskDevice "3-2.1").join "3-2.1:1.0".toList)
    else if path = (ttyClass.join "ttyACM0".toList).join "device".toList then
      some ((deskDevice "3-2.2").join "3-2.2:1.0".toList)
    else none
  listDir dir :=
    if dir = videoClass then [dir.join "video0".toList, dir.join "video1".toList]
    else if dir = ttyClass then [dir.join "tty0".toList, dir.join "ttyACM0".toList]
    else []
  exists_ path :=
    match path with
    | .normal (.text name) :: dir => (deskAttr dir name).isSome
    | _ => false
  distinct dir := by
    split
    · simp [Path.join]
    split
    · simp [Path.join]
    · exact List.nodup_nil
  entries dir entry member := by
    split at member
    · rcases List.mem_pair.mp member with rfl | rfl <;> exact ⟨_, rfl⟩
    split at member
    · rcases List.mem_pair.mp member with rfl | rfl <;> exact ⟨_, rfl⟩
    · cases member

/-- The sibling's query is refused. -/
def deskProbe : NodeProbe := fun dev =>
  if dev = (Path.absolute ["dev"]).join "video0".toList then .ok true
  else .error ⟨"Device or resource busy", some 16⟩

theorem discover_pairs_desk :
    (∃ pair, (discover desk deskProbe ⟨none, none⟩).1 = .ok pair ∧
      pair.video.dev = (Path.absolute ["dev"]).join "video0".toList ∧
      pair.serial.dev = (Path.absolute ["dev"]).join "ttyACM0".toList ∧
      pair.evidence.map Evidence.rank = some 2) ∧
    (∃! both : Node × Node, Qualifies desk deskProbe ⟨none, none⟩ both) ∧
    (∀ dev ∈ (discover desk deskProbe ⟨none, none⟩).2, ∃ video ∈ videoNodes desk,
      video.1 = dev ∧ Interesting desk video.2.sysfs) ∧
    ∀ other : Sysfs, SameNodes desk other →
      selection (discover other deskProbe ⟨none, none⟩).1 =
        selection (discover desk deskProbe ⟨none, none⟩).1 := by
  have found : ∃ pair, (discover desk deskProbe ⟨none, none⟩).1 = .ok pair ∧
      pair.video.dev = (Path.absolute ["dev"]).join "video0".toList ∧
      pair.serial.dev = (Path.absolute ["dev"]).join "ttyACM0".toList ∧
      pair.evidence.map Evidence.rank = some 2 := by
    have chosen : (match (discover desk deskProbe ⟨none, none⟩).1 with
        | .ok pair => decide (pair.video.dev = (Path.absolute ["dev"]).join "video0".toList ∧
            pair.serial.dev = (Path.absolute ["dev"]).join "ttyACM0".toList ∧
            pair.evidence.map Evidence.rank = some 2)
        | .error _ => false) = true := by decide +kernel
    split at chosen
    · rename_i pair found
      exact ⟨pair, found, of_decide_eq_true chosen⟩
    · cases chosen
  have facts := discover_pairs desk deskProbe ⟨none, none⟩ (Or.inl rfl)
  obtain ⟨pair, ok, named⟩ := found
  exact ⟨⟨pair, ok, named⟩, facts.1.mp ⟨pair, ok⟩, facts.2.2.1, facts.2.2.2⟩

end NanoKvm.Discovery

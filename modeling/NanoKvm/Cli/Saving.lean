import NanoKvm.Cli.Target
import NanoKvm.Lib.Transition
import Mathlib.Logic.Function.Basic

/-!
# Screenshots written side by side

`write_atomically` and its `Temporary`, of `cli/shot.rs`, for any number of
processes that write into the same directories.  Each step of a process asks one
thing of the system, and may be answered with a failure, a panic or a kill there.
What a directory is called is the system's to resolve.
-/

set_option autoImplicit false

namespace NanoKvm.Cli

open NanoKvm.Lib NanoKvm.Lib.Utf8
open NanoKvm.Proto (U8)

/-- What `ShotTarget::write` writes to a file, of the JPEG or of the PNG made of it. -/
def ShotTarget.payload (target : ShotTarget) (shot : Shot) (png : Except String (List U8)) :
    Except String (Option (OsPath × List U8)) :=
  match target with
  | .stdout => .ok none
  | .jpeg path => .ok (some (path, shot.jpeg))
  | .png path => png.map fun png => some (path, png)

/-- A file to write: its path, the name in it and the whole of its bytes. -/
structure Job where
  path : OsPath
  name : List U8
  bytes : List U8
  deriving DecidableEq, Repr

def Job.tmpPath (job : Job) (pid : Nat) : OsPath :=
  joinName (directory job.path) (tempName pid job.name)

def Job.failure (job : Job) (pid : Nat) : String :=
  "writing " ++ String.ofList (lossy job.path) ++ " (via the temporary " ++
    String.ofList (lossy (job.tmpPath pid)) ++ ")"

inductive Fault where
  | io (cause : String)
  | panic
  deriving DecidableEq, Repr

/-- Where `write_atomically` is; `offset` bytes are written so far. -/
inductive SaveStage where
  | creating
  | writing (offset : Nat)
  | syncing
  | moving
  | dropping (fault : Fault)
  deriving DecidableEq, Repr

inductive Outcome where
  | wrote
  | failed (fault : Fault) (removed : Bool)
  | killed
  deriving DecidableEq, Repr

structure Ended where
  pid : Nat
  job : Job
  outcome : Outcome
  deriving DecidableEq, Repr

section Directories
variable {Dir : Type} [DecidableEq Dir] (resolve : OsPath → Dir)

abbrev Entry (Dir : Type) := Dir × List U8

def Job.target (job : Job) : Entry Dir := (resolve (directory job.path), job.name)

def Job.temporary (job : Job) (pid : Nat) : Entry Dir :=
  (resolve (directory job.path), tempName pid job.name)

/-- What the directories hold, the processes that write, and the ended ones, newest first. -/
structure Disk (Dir : Type) where
  entries : Entry Dir → Option (List U8)
  running : Nat → Option (Job × SaveStage)
  ended : List Ended

inductive SaveLabel where
  | begin (pid : Nat) (path : Option OsPath) (now : Int) (shot : Shot)
      (png : Except String (List U8))
  | create (pid : Nat)
  | wrote (pid length : Nat)
  | encoded (pid : Nat)
  | synced (pid : Nat)
  | rename (pid : Nat)
  | fault (pid : Nat) (fault : Fault)
  | drop (pid : Nat) (removed : Bool)
  | kill (pid : Nat)

variable {resolve}

def Disk.put (disk : Disk Dir) (entry : Entry Dir) (content : Option (List U8)) : Disk Dir :=
  { disk with entries := Function.update disk.entries entry content }

def Disk.stage (disk : Disk Dir) (pid : Nat) (job : Job) (stage : SaveStage) : Disk Dir :=
  { disk with running := Function.update disk.running pid (some (job, stage)) }

def Disk.finish (disk : Disk Dir) (pid : Nat) (job : Job) (outcome : Outcome) : Disk Dir :=
  { disk with
    running := Function.update disk.running pid none
    ended := ⟨pid, job, outcome⟩ :: disk.ended }

variable (resolve)

/-- What a process asks of the system, where its stage lets it. -/
def Disk.advance (disk : Disk Dir) (pid : Nat) (job : Job) (stage : SaveStage) :
    SaveLabel → Option (Disk Dir)
  | .create _ =>
      match stage with
      | .creating =>
          some ((disk.put (job.temporary resolve pid) (some [])).stage pid job (.writing 0))
      | _ => none
  | .wrote _ length =>
      match stage with
      | .writing offset =>
          if offset + length ≤ job.bytes.length then
            some ((disk.put (job.temporary resolve pid)
              ((disk.entries (job.temporary resolve pid)).map
                (· ++ (job.bytes.drop offset).take length))).stage pid job
                  (.writing (offset + length)))
          else none
      | _ => none
  | .encoded _ =>
      match stage with
      | .writing offset =>
          if offset = job.bytes.length then some (disk.stage pid job .syncing) else none
      | _ => none
  | .synced _ =>
      match stage with
      | .syncing => some (disk.stage pid job .moving)
      | _ => none
  | .rename _ =>
      match stage, disk.entries (job.temporary resolve pid) with
      | .moving, some content =>
          some (((disk.put (job.target resolve) (some content)).put
            (job.temporary resolve pid) none).finish pid job .wrote)
      | _, _ => none
  | .fault _ fault =>
      match stage with
      | .dropping _ => none
      | _ => some (disk.stage pid job (.dropping fault))
  | .drop _ removed =>
      match stage with
      | .dropping fault =>
          some ((if removed then disk.put (job.temporary resolve pid) none else disk).finish pid
            job (.failed fault removed))
      | _ => none
  | .kill _ => some (disk.finish pid job .killed)
  | .begin .. => none

def SaveLabel.pid : SaveLabel → Nat
  | .begin pid .. | .create pid | .wrote pid _ | .encoded pid | .synced pid | .rename pid
  | .fault pid _ | .drop pid _ | .kill pid => pid

/-- A shot with its frame in hand; what cannot be written is refused before anything is made. -/
def Disk.begin (disk : Disk Dir) (pid : Nat) (path : Option OsPath) (now : Int) (shot : Shot)
    (png : Except String (List U8)) : Disk Dir :=
  match ShotTarget.parse path now with
  | .error _ => disk
  | .ok target =>
      match target.payload shot png with
      | .ok (some (path, bytes)) =>
          match fileName path with
          | some name => disk.stage pid ⟨path, name, bytes⟩ .creating
          | none => disk
      | _ => disk

def Disk.step (label : SaveLabel) (disk : Disk Dir) : Option (Disk Dir) :=
  match disk.running label.pid, label with
  | none, .begin pid path now shot png => some (disk.begin pid path now shot png)
  | none, _ => none
  | some (job, stage), label => disk.advance resolve label.pid job stage label

def Disk.started (entries : Entry Dir → Option (List U8)) : Disk Dir := ⟨entries, fun _ => none, []⟩

/-- What the last shot that got its rename there wrote. -/
def lastWritten (ended : List Ended) (entry : Entry Dir) : Option (List U8) :=
  ended.findSome? fun last =>
    if last.outcome = .wrote ∧ last.job.target resolve = entry then some last.job.bytes else none

/-- A shot that ended and left its temporary. -/
def Ended.Left (last : Ended) : Prop :=
  last.outcome = .killed ∨ ∃ fault, last.outcome = .failed fault false

/-- A process of the run writes a file it may, and its temporary holds what it wrote. -/
structure Disk.Holds (disk : Disk Dir) (pid : Nat) (job : Job) (stage : SaveStage) : Prop where
  accepted : Accepted (chosenBy job.path)
  named : fileName job.path = some job.name
  begun : ∀ offset, stage = .writing offset → offset ≤ job.bytes.length ∧
    disk.entries (job.temporary resolve pid) = some (job.bytes.take offset)
  full : stage = .syncing ∨ stage = .moving →
    disk.entries (job.temporary resolve pid) = some job.bytes

/-- An entry that was not there at first is a shot's, or a temporary in use or left. -/
def Disk.Accounted (disk : Disk Dir) (entry : Entry Dir) : Prop :=
  (lastWritten resolve disk.ended entry).isSome = true ∨
    (∃ pid job stage, disk.running pid = some (job, stage) ∧
      entry = job.temporary resolve pid) ∨
    ∃ last ∈ disk.ended, last.Left ∧ entry = last.job.temporary resolve last.pid

structure Disk.Sound (original : Entry Dir → Option (List U8)) (disk : Disk Dir) : Prop where
  whole : ∀ entry, (∀ pid name, entry.2 ≠ tempName pid name) →
    disk.entries entry = (lastWritten resolve disk.ended entry).or (original entry)
  holds : ∀ pid job stage, disk.running pid = some (job, stage) →
    disk.Holds resolve pid job stage
  litter : ∀ entry, original entry = none → disk.entries entry ≠ none →
    disk.Accounted resolve entry

variable {resolve} {original : Entry Dir → Option (List U8)} {disk : Disk Dir} {pid : Nat}
  {job : Job} {place : SaveStage}

omit [DecidableEq Dir] in
theorem temporary_ne_of_pid {other : Nat} {theirs : Job} (distinct : other ≠ pid) :
    theirs.temporary resolve other ≠ job.temporary resolve pid := fun same =>
  distinct (tempName_pid (congrArg Prod.snd same))

omit [DecidableEq Dir] in
theorem Disk.Holds.plain (holds : disk.Holds resolve pid job place) (other : Nat)
    (name : List U8) : (job.target resolve).2 ≠ tempName other name := by
  obtain ⟨file, named, apart⟩ := accepted_ne_tempName holds.accepted
  cases named.symm.trans holds.named
  exact apart other name

omit [DecidableEq Dir] in
theorem Disk.Holds.frame {after : Disk Dir} (holds : disk.Holds resolve pid job place)
    (same : after.entries (job.temporary resolve pid) =
      disk.entries (job.temporary resolve pid)) : after.Holds resolve pid job place :=
  ⟨holds.accepted, holds.named, by rw [same]; exact holds.begun,
    by rw [same]; exact holds.full⟩

theorem lastWritten_cons (last : Ended) (ended : List Ended) (entry : Entry Dir) :
    lastWritten resolve (last :: ended) entry =
      if last.outcome = .wrote ∧ last.job.target resolve = entry then some last.job.bytes
      else lastWritten resolve ended entry := by
  unfold lastWritten
  rw [List.findSome?_cons]
  split_ifs <;> rfl

theorem lastWritten_unwritten {last : Ended} (unwritten : last.outcome ≠ .wrote)
    (ended : List Ended) (entry : Entry Dir) :
    lastWritten resolve (last :: ended) entry = lastWritten resolve ended entry := by
  rw [lastWritten_cons, if_neg fun both => unwritten both.1]

/-- A step of a process on its own temporary. -/
theorem Disk.Sound.own (sound : disk.Sound resolve original)
    (running : disk.running pid = some (job, place)) (content : Option (List U8))
    {next : SaveStage}
    (holds : (disk.put (job.temporary resolve pid) content).Holds resolve pid job next) :
    ((disk.put (job.temporary resolve pid) content).stage pid job next).Sound resolve original := by
  constructor
  · intro entry plain
    have elsewhere : entry ≠ job.temporary resolve pid := by
      rintro rfl
      exact plain _ _ rfl
    exact (Function.update_of_ne elsewhere _ _).trans (sound.whole entry plain)
  · intro other theirs their moves
    rcases eq_or_ne other pid with rfl | distinct
    · have := (Function.update_self other _ disk.running).symm.trans moves
      cases this
      exact holds.frame rfl
    · have before := (Function.update_of_ne distinct _ _).symm.trans moves
      refine (sound.holds other theirs their before).frame ?_
      exact Function.update_of_ne (temporary_ne_of_pid distinct) _ _
  · intro entry absent present
    by_cases own : entry = job.temporary resolve pid
    · exact Or.inr (Or.inl ⟨pid, job, next, Function.update_self _ _ _, own⟩)
    · have before : disk.entries entry ≠ none := by
        rwa [← Function.update_of_ne own content disk.entries]
      rcases sound.litter entry absent before with written | ⟨other, theirs, their, at_, eq⟩ | left
      · exact Or.inl written
      · refine Or.inr (Or.inl ⟨other, theirs, their, ?_, eq⟩)
        have distinct : other ≠ pid := by
          rintro rfl
          cases running.symm.trans at_
          exact own eq
        exact (Function.update_of_ne distinct _ _).trans at_
      · exact Or.inr (Or.inr left)

/-- A step that touches no file. -/
theorem Disk.Sound.move (sound : disk.Sound resolve original)
    (running : disk.running pid = some (job, place)) {next : SaveStage}
    (holds : disk.Holds resolve pid job next) :
    (disk.stage pid job next).Sound resolve original := by
  have same : disk.put (job.temporary resolve pid) (disk.entries (job.temporary resolve pid)) =
      disk := by
    unfold Disk.put
    rw [Function.update_eq_self]
  have := sound.own running (disk.entries (job.temporary resolve pid)) (same.symm ▸ holds)
  rwa [same] at this

/-- An end without the rename, the temporary removed or left. -/
theorem Disk.Sound.finish (sound : disk.Sound resolve original)
    (running : disk.running pid = some (job, place)) (outcome : Outcome)
    (unwritten : outcome ≠ .wrote) {after : Disk Dir}
    (settled : after = disk.put (job.temporary resolve pid) none ∨
      after = disk ∧ Ended.Left ⟨pid, job, outcome⟩) :
    (after.finish pid job outcome).Sound resolve original := by
  have elsewhere : ∀ entry, entry ≠ job.temporary resolve pid →
      after.entries entry = disk.entries entry := by
    intro entry ne
    rcases settled with rfl | ⟨rfl, -⟩
    · exact Function.update_of_ne ne _ _
    · rfl
  have others : after.running = disk.running ∧ after.ended = disk.ended := by
    rcases settled with rfl | ⟨rfl, -⟩ <;> exact ⟨rfl, rfl⟩
  have ended : (after.finish pid job outcome).ended = ⟨pid, job, outcome⟩ :: disk.ended :=
    congrArg (_ :: ·) others.2
  constructor
  · intro entry plain
    rw [ended, lastWritten_unwritten unwritten]
    refine (elsewhere entry ?_).trans (sound.whole entry plain)
    rintro rfl
    exact plain _ _ rfl
  · intro other theirs their moves
    have distinct : other ≠ pid := by
      rintro rfl
      cases (Function.update_self other _ after.running).symm.trans moves
    have before := (Function.update_of_ne distinct _ _).symm.trans moves
    rw [others.1] at before
    refine (sound.holds other theirs their before).frame ?_
    exact elsewhere _ (temporary_ne_of_pid distinct)
  · intro entry absent present
    unfold Disk.Accounted
    rw [ended, lastWritten_unwritten unwritten]
    by_cases own : entry = job.temporary resolve pid
    · rcases settled with rfl | ⟨-, left⟩
      · rw [own] at present
        exact absurd (Function.update_self _ _ _) present
      · exact Or.inr (Or.inr ⟨_, List.mem_cons_self, left, own⟩)
    · have before : disk.entries entry ≠ none := fun none =>
        present ((elsewhere entry own).trans none)
      rcases sound.litter entry absent before with written | ⟨other, theirs, their, at_, eq⟩ |
        ⟨last, inside, left, eq⟩
      · exact Or.inl written
      · refine Or.inr (Or.inl ⟨other, theirs, their, ?_, eq⟩)
        have distinct : other ≠ pid := by
          rintro rfl
          cases running.symm.trans at_
          exact own eq
        refine (Function.update_of_ne distinct _ _).trans ?_
        rw [others.1]
        exact at_
      · exact Or.inr (Or.inr ⟨last, List.mem_cons_of_mem _ inside, left, eq⟩)

/-- The rename puts the whole of the bytes where the target names. -/
theorem Disk.Sound.rename (sound : disk.Sound resolve original)
    (running : disk.running pid = some (job, .moving)) :
    (((disk.put (job.target resolve) (some job.bytes)).put (job.temporary resolve pid) none).finish
      pid job .wrote).Sound resolve original := by
  have plain := (sound.holds pid job _ running).plain
  have apart : job.target resolve ≠ job.temporary resolve pid := fun same =>
    plain _ _ (congrArg Prod.snd same)
  have target : Function.update (Function.update disk.entries (job.target resolve)
      (some job.bytes)) (job.temporary resolve pid) none (job.target resolve) = some job.bytes :=
    (Function.update_of_ne apart _ _).trans (Function.update_self _ _ _)
  have elsewhere : ∀ entry, entry ≠ job.temporary resolve pid → entry ≠ job.target resolve →
      Function.update (Function.update disk.entries (job.target resolve) (some job.bytes))
        (job.temporary resolve pid) none entry = disk.entries entry := fun entry tmp there =>
    (Function.update_of_ne tmp _ _).trans (Function.update_of_ne there _ _)
  constructor
  · intro entry other
    change _ = (lastWritten resolve (_ :: disk.ended) entry).or _
    rw [lastWritten_cons]
    by_cases there : job.target resolve = entry
    · rw [if_pos ⟨rfl, there⟩, ← there]
      exact target
    · rw [if_neg fun both => there both.2]
      refine (elsewhere entry ?_ (Ne.symm there)).trans (sound.whole entry other)
      rintro rfl
      exact other _ _ rfl
  · intro other theirs their moves
    have distinct : other ≠ pid := by
      rintro rfl
      cases (Function.update_self other _ _).symm.trans moves
    have before := (Function.update_of_ne distinct _ _).symm.trans moves
    have target : theirs.temporary resolve other ≠ job.target resolve := fun same =>
      plain _ _ (congrArg Prod.snd same).symm
    refine (sound.holds other theirs their before).frame ?_
    exact elsewhere _ (temporary_ne_of_pid distinct) target
  · intro entry absent present
    change (lastWritten resolve (_ :: disk.ended) entry).isSome = true ∨ _
    rw [lastWritten_cons]
    by_cases there : job.target resolve = entry
    · rw [if_pos ⟨rfl, there⟩]
      exact Or.inl rfl
    · rw [if_neg fun both => there both.2]
      have own : entry ≠ job.temporary resolve pid := by
        rintro rfl
        exact present (Function.update_self _ _ _)
      have before : disk.entries entry ≠ none := fun none =>
        present ((elsewhere entry own (Ne.symm there)).trans none)
      rcases sound.litter entry absent before with written | ⟨other, theirs, their, at_, eq⟩ |
        ⟨last, inside, left, eq⟩
      · exact Or.inl written
      · refine Or.inr (Or.inl ⟨other, theirs, their, ?_, eq⟩)
        have distinct : other ≠ pid := by
          rintro rfl
          cases running.symm.trans at_
          exact own eq
        exact (Function.update_of_ne distinct _ _).trans at_
      · exact Or.inr (Or.inr ⟨last, List.mem_cons_of_mem _ inside, left, eq⟩)

/-- A process that was not running starts on a file. -/
theorem Disk.Sound.begins (sound : disk.Sound resolve original) (idle : disk.running pid = none)
    (path : Option OsPath) (now : Int) (shot : Shot) (png : Except String (List U8)) :
    (disk.begin pid path now shot png).Sound resolve original := by
  unfold Disk.begin
  split
  · exact sound
  next target parsed =>
    split
    next path bytes payload =>
      split
      next name named =>
        have names : target.path = some path := by
          cases target with
          | stdout => cases payload
          | jpeg file => cases payload; rfl
          | png file =>
              cases png with
              | error cause => cases payload
              | ok image => cases payload; rfl
        refine ⟨sound.whole, fun other theirs their moves => ?_, fun entry absent present => ?_⟩
        · rcases eq_or_ne other pid with rfl | distinct
          · cases (Function.update_self other _ disk.running).symm.trans moves
            exact ⟨parse_accepts parsed names, named, nofun, by simp⟩
          · have before := (Function.update_of_ne distinct _ _).symm.trans moves
            exact (sound.holds other theirs their before).frame rfl
        · rcases sound.litter entry absent present with written |
            ⟨other, theirs, their, at_, eq⟩ | left
          · exact Or.inl written
          · refine Or.inr (Or.inl ⟨other, theirs, their, ?_, eq⟩)
            have distinct : other ≠ pid := by
              rintro rfl
              cases idle.symm.trans at_
            exact (Function.update_of_ne distinct _ _).trans at_
          · exact Or.inr (Or.inr left)
      next => exact sound
    next => exact sound

theorem Disk.Sound.advance (sound : disk.Sound resolve original)
    (running : disk.running pid = some (job, place)) {label : SaveLabel} {next : Disk Dir}
    (stepped : disk.advance resolve pid job place label = some next) :
    next.Sound resolve original := by
  have holds := sound.holds pid job place running
  cases label with
  | begin => cases stepped
  | create =>
      cases place <;> cases stepped
      refine sound.own running _ ⟨holds.accepted, holds.named, ?_, by simp⟩
      rintro offset ⟨⟩
      exact ⟨Nat.zero_le _, Function.update_self _ _ _⟩
  | wrote other length =>
      cases place with
      | writing offset =>
          unfold Disk.advance at stepped
          dsimp only at stepped
          split_ifs at stepped with fits
          cases stepped
          obtain ⟨-, content⟩ := holds.begun offset rfl
          refine sound.own running _ ⟨holds.accepted, holds.named, ?_, by simp⟩
          rintro after ⟨⟩
          refine ⟨fits, (Function.update_self _ _ _).trans ?_⟩
          rw [content, Option.map_some, List.take_add]
      | _ => cases stepped
  | encoded =>
      cases place with
      | writing offset =>
          unfold Disk.advance at stepped
          dsimp only at stepped
          split_ifs at stepped with done
          cases stepped
          obtain ⟨-, content⟩ := holds.begun offset rfl
          refine sound.move running ⟨holds.accepted, holds.named, nofun, fun _ => ?_⟩
          rw [content, done, List.take_length]
      | _ => cases stepped
  | synced =>
      cases place <;> cases stepped
      exact sound.move running
        ⟨holds.accepted, holds.named, nofun, fun _ => holds.full (Or.inl rfl)⟩
  | rename =>
      cases place with
      | moving =>
          have content := holds.full (Or.inr rfl)
          unfold Disk.advance at stepped
          rw [content] at stepped
          cases stepped
          exact sound.rename running
      | _ => cases stepped
  | fault other fault =>
      have dropping : (disk.stage pid job (.dropping fault)).Sound resolve original :=
        sound.move running ⟨holds.accepted, holds.named, nofun, by simp⟩
      cases place <;> cases stepped <;> exact dropping
  | drop other removed =>
      cases place with
      | dropping fault =>
          cases stepped
          refine sound.finish running (.failed fault removed) nofun ?_
          cases removed with
          | true => exact Or.inl rfl
          | false => exact Or.inr ⟨rfl, Or.inr ⟨fault, rfl⟩⟩
      | _ => cases stepped
  | kill =>
      cases stepped
      exact sound.finish running .killed nofun (Or.inr ⟨rfl, Or.inl rfl⟩)

theorem Disk.Sound.step (sound : disk.Sound resolve original) {label : SaveLabel}
    {next : Disk Dir} (stepped : disk.step resolve label = some next) :
    next.Sound resolve original := by
  unfold Disk.step at stepped
  split at stepped
  next idle =>
    cases stepped
    exact sound.begins idle _ _ _ _
  · cases stepped
  next running => exact sound.advance running stepped

theorem started_sound (entries : Entry Dir → Option (List U8)) :
    (Disk.started entries).Sound resolve entries :=
  ⟨fun _ _ => rfl, nofun, fun _ absent present => absurd absent present⟩

/-- Every file but the temporaries is as it was at first or the whole of the shot that was
last renamed there, whatever shots run beside each other and wherever they stop.  A new file
that no shot was renamed to is the temporary of one that runs, or of one that was killed or
could not remove it; and the rename finds its temporary, with all of the bytes. -/
theorem shots_appear_whole {Dir : Type} [DecidableEq Dir] (resolve : OsPath → Dir)
    (original : Entry Dir → Option (List U8)) (disk : Disk Dir)
    (reached : Reachable (Disk.step resolve) (· = Disk.started original) disk) :
    (∀ entry, (∀ pid name, entry.2 ≠ tempName pid name) →
      disk.entries entry = (lastWritten resolve disk.ended entry).or (original entry)) ∧
    (∀ path now target file, ShotTarget.parse path now = .ok target →
      target.path = some file → ∃ name, fileName file = some name ∧
        ∀ pid other, name ≠ tempName pid other) ∧
    (∀ entry, original entry = none → disk.entries entry ≠ none →
      disk.Accounted resolve entry) ∧
    ∀ pid job, disk.running pid = some (job, .moving) →
      disk.entries (job.temporary resolve pid) = some job.bytes := by
  have sound : disk.Sound resolve original :=
    reachable_preserves (fun _ first => first ▸ started_sound original)
      (fun _ _ _ sound stepped => sound.step stepped) reached
  refine ⟨sound.whole, ?_, sound.litter, fun pid job running => ?_⟩
  · intro path now target file parsed names
    exact accepted_ne_tempName (parse_accepts parsed names)
  · exact (sound.holds pid job _ running).full (Or.inr rfl)

end Directories

def oneByteShot (byte : U8) : Shot := ⟨[byte], 1#32, 1#32, 0, 0, 0, false⟩

/-- Two shots race for one path, and the second to rename wins. -/
def raceLabels : List SaveLabel :=
  [.begin 7 (some (ascii "x.jpg")) 0 (oneByteShot 1#8) (.error ""), .create 7,
    .begin 8 (some (ascii "x.JPG")) 0 (oneByteShot 3#8) (.error ""), .fault 8 .panic,
    .drop 8 true, .begin 8 (some (ascii "./x.jpg")) 0 (oneByteShot 2#8) (.error ""), .create 8,
    .wrote 8 1, .wrote 7 1, .encoded 7, .encoded 8, .synced 7, .rename 7, .synced 8, .rename 8]

def raceDisk : Disk OsPath :=
  (run (Disk.step id) raceLabels (Disk.started fun _ => none)).getD (Disk.started fun _ => none)

theorem shots_appear_whole_race :
    raceDisk.entries (ascii ".", ascii "x.jpg") = some [2#8] := by
  have reached : Reachable (Disk.step id) (· = Disk.started fun _ => none) raceDisk :=
    ⟨_, raceLabels, rfl, run_getD (by decide)⟩
  have named : ∀ pid name, ascii "x.jpg" ≠ tempName pid name := by
    have accepted : Accepted (chosenBy (ascii "x.jpg")) := Or.inl rfl
    obtain ⟨name, here, apart⟩ := accepted_ne_tempName accepted
    have file : fileName (ascii "x.jpg") = some (ascii "x.jpg") := by decide +kernel
    cases file.symm.trans here
    exact apart
  have written : lastWritten id raceDisk.ended (ascii ".", ascii "x.jpg") = some [2#8] := by
    decide +kernel
  rw [(shots_appear_whole id (fun _ => none) raceDisk reached).1 _ named, written]
  rfl

end NanoKvm.Cli

import NanoKvm.Lib.Transition
import NanoKvm.Script.Compile
import NanoKvm.Viewer.Route

/-!
# The settings file

`viewer/chrome/config.rs`.  A save is made in the steps the system sees, so that it
can fail, or the viewer be killed, between any two of them.  TOML is a parameter.
The directory is left out: a file whose directory is missing is missing.
-/

set_option autoImplicit false

namespace NanoKvm.Viewer.Settings

open NanoKvm.Lib
open NanoKvm.Script (Layout)

/-! ## The settings -/

/-- A 32-bit float, as its bits. -/
abbrev F32 := BitVec 32

def isNan (x : F32) : Bool := (0x7f800000#32).ult (x &&& 0x7fffffff#32)

/-- `==` of floats: both zeros are equal, and nothing equals a NaN. -/
def floatEq (x y : F32) : Bool :=
  !isNan x && !isNan y && (x == y || (x ||| y) &&& 0x7fffffff#32 == 0#32)

inductive WheelDirection where
  | natural
  | inverted
  deriving DecidableEq, Repr

def WheelDirection.sign : WheelDirection → Int
  | .natural => 1
  | .inverted => -1

structure Config where
  menuOpen : Bool
  mouseMode : PointerMode
  cursorHidden : Bool
  wheelDirection : WheelDirection
  audioMuted : Bool
  pillX : F32
  pillY : F32
  layout : Layout
  deriving DecidableEq, Repr

/-- The pill starts at 16.0, 16.0. -/
def Config.default : Config where
  menuOpen := true
  mouseMode := .absolute
  cursorHidden := false
  wheelDirection := .natural
  audioMuted := false
  pillX := 0x41800000#32
  pillY := 0x41800000#32
  layout := .us

/-- The derived `==`. -/
def Config.eq (config other : Config) : Bool :=
  config.menuOpen == other.menuOpen && decide (config.mouseMode = other.mouseMode) &&
    config.cursorHidden == other.cursorHidden &&
    decide (config.wheelDirection = other.wheelDirection) &&
    config.audioMuted == other.audioMuted && floatEq config.pillX other.pillX &&
    floatEq config.pillY other.pillY && decide (config.layout = other.layout)

/-- The same number, or no number either way. -/
def FloatAlike (x y : F32) : Prop := x = y ∨ (isNan x = true ∧ isNan y = true)

/-- What a file keeps of the settings written to it: all but which NaN it was. -/
structure Config.Alike (config other : Config) : Prop where
  menuOpen : config.menuOpen = other.menuOpen
  mouseMode : config.mouseMode = other.mouseMode
  cursorHidden : config.cursorHidden = other.cursorHidden
  wheelDirection : config.wheelDirection = other.wheelDirection
  audioMuted : config.audioMuted = other.audioMuted
  pillX : FloatAlike config.pillX other.pillX
  pillY : FloatAlike config.pillY other.pillY
  layout : config.layout = other.layout

/-! ## The store -/

inductive ConfigError where
  | parse (path source : String)
  | io (path source : String)
  | serialize (source : String)
  deriving DecidableEq, Repr

def ConfigError.display : ConfigError → String
  | .parse path source => path ++ ": " ++ source
  | .io path source => path ++ ": " ++ source
  | .serialize source => "rendering the settings as TOML: " ++ source

structure Store where
  path : String
  deriving DecidableEq, Repr

def join (root relative : String) : String :=
  if root.toList.getLast? = some '/' then root ++ relative else root ++ "/" ++ relative

def isAbsolute (path : String) : Bool := path.toList.head? == some '/'

def Store.at (root : String) : Store := ⟨join root "nanokvm/config.toml"⟩

/-- `Store::discover`, of the two variables. -/
def Store.discover (xdgConfigHome home : Option String) : Option Store :=
  let root :=
    match xdgConfigHome with
    | some v =>
        if v ≠ "" ∧ isAbsolute v = true then some v else home.map fun home => join home ".config"
    | none => home.map fun home => join home ".config"
  root.bind fun root => if isAbsolute root then some (Store.at root) else none

def Store.tmpPath (store : Store) : String := store.path ++ ".tmp"

/-- `path.parent()`. -/
def Store.directory (store : Store) : String :=
  String.ofList ((store.path.toList.reverse.dropWhile (· ≠ '/')).drop 1).reverse

theorem discover_absolute {xdgConfigHome home : Option String} {store : Store}
    (found : Store.discover xdgConfigHome home = some store) :
    ∃ root, isAbsolute root = true ∧ store = Store.at root := by
  obtain ⟨root, -, absolute⟩ := Option.bind_eq_some_iff.mp found
  split at absolute <;> cases absolute
  next holds => exact ⟨root, holds, rfl⟩

/-- What is in a file. -/
abbrev Text := List (BitVec 8)

/-- Why a text is not settings: no UTF-8, or no TOML of theirs. -/
inductive Refused where
  | utf8 (reason : String)
  | toml (reason : String)
  deriving DecidableEq, Repr

/-- `read_to_string` with `toml::from_str`, and `toml::to_string_pretty`. -/
structure Format where
  parse : Text → Except Refused Config
  render : Config → Except String Text

/-- What a config was rendered to reads back as it. -/
def Format.Reads (format : Format) : Prop :=
  ∀ config text, format.render config = .ok text →
    ∃ back, format.parse text = .ok back ∧ back.Alike config

/-- A file that is not there is the defaults. -/
def Format.read (format : Format) : Option Text → Except Refused Config
  | none => .ok Config.default
  | some text => format.parse text

/-- `Store::load`, of the file and of whether reading it fails. -/
def Store.load (store : Store) (format : Format) (file : Option Text) (failed : Option String) :
    Except ConfigError Config :=
  match failed, format.read file with
  | some source, _ => .error (.io store.path source)
  | none, .ok config => .ok config
  | none, .error (.utf8 reason) => .error (.io store.path reason)
  | none, .error (.toml reason) => .error (.parse store.path reason)

/-! ## Saving, step by step -/

/-- Where `Store::save` is. -/
inductive Stage where
  | idle
  | making (config : Config) (text : Text)
  | writing (config : Config) (text : Text)
  | renaming (config : Config)
  | removing
  deriving DecidableEq, Repr

structure Session where
  saved : Config
  stage : Stage
  deriving DecidableEq, Repr

/-- What `fs::write` does: all of it, nothing, or a first part before it fails. -/
inductive Written where
  | whole
  | unopened (reason : String)
  | torn (length : Nat) (reason : String)
  deriving DecidableEq, Repr

/-- The disk, the viewer if one runs, the warnings it logged and the settings committed by
a rename.  Nothing reads the last. -/
structure World where
  store : Option Store
  file : Option Text
  tmp : Option Text
  session : Option Session
  warned : List ConfigError
  committed : List Config

inductive Label where
  /-- A viewer starts; a file it cannot use keeps it from starting. -/
  | boot (failed : Option String)
  | persist (config : Config)
  | make (failed : Option String)
  | write (written : Written)
  | rename (failed : Option String)
  | remove (removed : Bool)
  /-- The viewer is killed; a write under way stops after `length` bytes. -/
  | kill (length : Nat)

def World.warn (world : World) (session : Session) (e : ConfigError) : World :=
  { world with session := some { session with stage := .idle }, warned := world.warned ++ [e] }

def World.stage (world : World) (session : Session) (stage : Stage) : World :=
  { world with session := some { session with stage } }

/-- `persist`, up to the first thing `save` asks of the system. -/
def World.persist (world : World) (format : Format) (session : Session) (config : Config) :
    World :=
  if config.eq session.saved then world
  else
    match world.store with
    | none => { world with session := some { session with saved := config } }
    | some _ =>
        match format.render config with
        | .error source => world.warn session (.serialize source)
        | .ok text => world.stage session (.making config text)

def World.write (world : World) (session : Session) (store : Store) (config : Config)
    (text : Text) : Written → World
  | .whole => { world with tmp := some text }.stage session (.renaming config)
  | .unopened reason => world.warn session (.io store.tmpPath reason)
  | .torn length reason =>
      { world with tmp := some (text.take length) }.warn session (.io store.tmpPath reason)

/-- The rename replaces the file whole, and only then are the settings saved. -/
def World.rename (world : World) (config : Config) : World :=
  { world with
    file := world.tmp
    tmp := none
    session := some ⟨config, .idle⟩
    committed := world.committed ++ [config] }

def World.kill (world : World) (session : Session) (length : Nat) : World :=
  { world with
    session := none
    tmp :=
      match session.stage with
      | .writing _ text => some (text.take length)
      | _ => world.tmp }

def World.step (format : Format) (label : Label) (world : World) : Option World :=
  match label with
  | .boot failed =>
      match world.session, world.store with
      | some _, _ => none
      | none, none => some { world with session := some ⟨Config.default, .idle⟩ }
      | none, some store =>
          match store.load format world.file failed with
          | .ok config => some { world with session := some ⟨config, .idle⟩ }
          | .error _ => some world
  | .persist config =>
      world.session.bind fun session =>
        match session.stage with
        | .idle => some (world.persist format session config)
        | _ => none
  | .make failed =>
      match world.session, world.store with
      | some session, some store =>
          match session.stage, failed with
          | .making config text, none => some (world.stage session (.writing config text))
          | .making _ _, some reason => some (world.warn session (.io store.directory reason))
          | _, _ => none
      | _, _ => none
  | .write written =>
      match world.session, world.store with
      | some session, some store =>
          match session.stage with
          | .writing config text => some (world.write session store config text written)
          | _ => none
      | _, _ => none
  | .rename failed =>
      match world.session, world.store with
      | some session, some store =>
          match session.stage, failed with
          | .renaming config, none => some (world.rename config)
          | .renaming _, some reason =>
              some
                { (world.stage session .removing) with
                  warned := world.warned ++ [.io store.path reason] }
          | _, _ => none
      | _, _ => none
  | .remove removed =>
      world.session.bind fun session =>
        match session.stage with
        | .removing =>
            some ({ world with tmp := if removed then none else world.tmp }.stage session .idle)
        | _ => none
  | .kill length => world.session.map fun session => world.kill session length

def World.new (store : Option Store) (file tmp : Option Text) : World where
  store
  file
  tmp
  session := none
  warned := []
  committed := []

/-! ## What is never lost -/

theorem FloatAlike.refl (x : F32) : FloatAlike x x := .inl rfl

theorem FloatAlike.symm {x y : F32} (alike : FloatAlike x y) : FloatAlike y x :=
  alike.imp Eq.symm And.symm

theorem Config.Alike.refl (config : Config) : config.Alike config :=
  ⟨rfl, rfl, rfl, rfl, rfl, .refl _, .refl _, rfl⟩

theorem Config.Alike.symm {config other : Config} (alike : config.Alike other) :
    other.Alike config :=
  ⟨alike.menuOpen.symm, alike.mouseMode.symm, alike.cursorHidden.symm, alike.wheelDirection.symm,
    alike.audioMuted.symm, alike.pillX.symm, alike.pillY.symm, alike.layout.symm⟩

theorem load_ok {store : Store} {format : Format} {file : Option Text} {failed : Option String}
    {config : Config} (loaded : store.load format file failed = .ok config) :
    format.read file = .ok config := by
  unfold Store.load at loaded
  split at loaded
  · cases loaded
  next read =>
    cases loaded
    exact read
  · cases loaded
  · cases loaded

section Survival
variable {format : Format} {original : Option Text} {first : Config}

/-- What a save under way has in hand is what its config was rendered to. -/
def Stage.Renders (format : Format) (tmp : Option Text) : Stage → Prop
  | .making config text | .writing config text => format.render config = .ok text
  | .renaming config => ∃ text, tmp = some text ∧ format.render config = .ok text
  | .idle | .removing => True

/-- The file is the one first found, or what the last committed config was rendered to. -/
def Keeps (format : Format) (original : Option Text) (file : Option Text)
    (committed : List Config) : Prop :=
  (committed = [] ∧ file = original) ∨
    ∃ earlier config text, committed = earlier ++ [config] ∧ file = some text ∧
      format.render config = .ok text

theorem Keeps.reads {file : Option Text} {committed : List Config}
    (keeps : Keeps format original file committed) (reads : format.Reads)
    (usable : format.read original = .ok first) :
    ∃ kept, format.read file = .ok kept ∧ kept.Alike (committed.getLastD first) := by
  rcases keeps with ⟨rfl, rfl⟩ | ⟨earlier, config, text, rfl, rfl, rendered⟩
  · exact ⟨first, usable, .refl first⟩
  · obtain ⟨back, parsed, alike⟩ := reads config text rendered
    exact ⟨back, parsed, by simpa using alike⟩

structure World.Safe (format : Format) (store : Store) (original : Option Text) (world : World) :
    Prop where
  store : world.store = some store
  file : Keeps format original world.file world.committed
  stage : ∀ session, world.session = some session → session.stage.Renders format world.tmp
  saved : ∀ session kept, world.session = some session → format.read world.file = .ok kept →
    session.saved.Alike kept

variable {store : Store} {world next : World} {session : Session}

/-- Another stage, another temporary file: the settings file and what is remembered stay. -/
theorem World.Safe.elsewhere (safe : world.Safe format store original)
    (here : world.session = some session) {stage : Stage} (sameStore : next.store = world.store)
    (sameFile : next.file = world.file) (sameCommitted : next.committed = world.committed)
    (now : next.session = some { session with stage }) (renders : stage.Renders format next.tmp) :
    next.Safe format store original := by
  refine ⟨sameStore.trans safe.store, ?_, ?_, ?_⟩
  · rw [sameFile, sameCommitted]
    exact safe.file
  · intro other there
    cases now.symm.trans there
    exact renders
  · intro other kept there read
    cases now.symm.trans there
    exact safe.saved session kept here (sameFile ▸ read)

theorem World.Safe.persist (safe : world.Safe format store original)
    (here : world.session = some session) (config : Config) :
    (world.persist format session config).Safe format store original := by
  unfold World.persist
  split
  · exact safe
  rw [safe.store]
  dsimp only
  split
  · exact safe.elsewhere here rfl rfl rfl rfl trivial
  next text rendered => exact safe.elsewhere here rfl rfl rfl rfl rendered

theorem World.Safe.write (safe : world.Safe format store original)
    (here : world.session = some session) {config : Config} {text : Text}
    (rendered : format.render config = .ok text) (written : Written) :
    (world.write session store config text written).Safe format store original := by
  cases written with
  | whole => exact safe.elsewhere here rfl rfl rfl rfl ⟨text, rfl, rendered⟩
  | unopened reason => exact safe.elsewhere here rfl rfl rfl rfl trivial
  | torn length reason => exact safe.elsewhere here rfl rfl rfl rfl trivial

theorem World.Safe.rename (safe : world.Safe format store original) (reads : format.Reads)
    {config : Config} {text : Text} (tmp : world.tmp = some text)
    (rendered : format.render config = .ok text) :
    (world.rename config).Safe format store original := by
  refine ⟨safe.store, ?_, ?_, ?_⟩
  · exact .inr ⟨world.committed, config, text, rfl, tmp, rendered⟩
  · rintro session ⟨⟩
    trivial
  · rintro session kept ⟨⟩ read
    obtain ⟨back, parsed, alike⟩ := reads config text rendered
    simp only [World.rename, tmp, Format.read, parsed, Except.ok.injEq] at read
    subst read
    exact alike.symm

theorem World.Safe.kill (safe : world.Safe format store original) (length : Nat) :
    (world.kill session length).Safe format store original := by
  refine ⟨safe.store, safe.file, ?_, ?_⟩
  · rintro other ⟨⟩
  · rintro other kept ⟨⟩

theorem World.Safe.boot (safe : world.Safe format store original) {config : Config}
    (read : format.read world.file = .ok config) :
    World.Safe format store original { world with session := some ⟨config, .idle⟩ } := by
  refine ⟨safe.store, safe.file, ?_, ?_⟩
  · rintro session ⟨⟩
    trivial
  · rintro session kept ⟨⟩ again
    cases read.symm.trans again
    exact .refl config

theorem World.Safe.step (reads : format.Reads) {label : Label}
    (safe : world.Safe format store original) (stepped : world.step format label = some next) :
    next.Safe format store original := by
  cases label with
  | boot failed =>
      simp only [World.step] at stepped
      split at stepped
      · cases stepped
      next there =>
        cases safe.store.symm.trans there
      next found there =>
        cases safe.store.symm.trans there
        split at stepped
        next config loaded =>
          cases stepped
          exact safe.boot (load_ok loaded)
        · cases stepped
          exact safe
  | persist config =>
      obtain ⟨session, here, persisted⟩ := Option.bind_eq_some_iff.mp stepped
      split at persisted <;> cases persisted
      exact safe.persist here config
  | make failed =>
      simp only [World.step] at stepped
      split at stepped
      next session found here there =>
        have stage := safe.stage session here
        split at stepped
        next config text making =>
          cases stepped
          rw [making] at stage
          exact safe.elsewhere here rfl rfl rfl rfl stage
        · cases stepped
          exact safe.elsewhere here rfl rfl rfl rfl trivial
        · cases stepped
      · cases stepped
  | write written =>
      simp only [World.step] at stepped
      split at stepped
      next session found here there =>
        have stage := safe.stage session here
        cases safe.store.symm.trans there
        split at stepped
        next config text writing =>
          cases stepped
          rw [writing] at stage
          exact safe.write here stage written
        · cases stepped
      · cases stepped
  | rename failed =>
      simp only [World.step] at stepped
      split at stepped
      next session found here there =>
        have stage := safe.stage session here
        split at stepped
        next config underway =>
          cases stepped
          rw [underway] at stage
          obtain ⟨text, tmp, rendered⟩ := stage
          exact safe.rename reads tmp rendered
        · cases stepped
          exact safe.elsewhere here rfl rfl rfl rfl trivial
        · cases stepped
      · cases stepped
  | remove removed =>
      obtain ⟨session, here, removing⟩ := Option.bind_eq_some_iff.mp stepped
      split at removing <;> cases removing
      exact safe.elsewhere here rfl rfl rfl rfl trivial
  | kill length =>
      obtain ⟨session, here, rfl⟩ := Option.map_eq_some_iff.mp stepped
      exact safe.kill length

/-- The first temporary file is whatever an earlier viewer left. -/
theorem World.new_safe (store : Store) (original tmp : Option Text) :
    (World.new (some store) original tmp).Safe format store original := by
  refine ⟨rfl, .inl ⟨rfl, rfl⟩, ?_, ?_⟩
  · rintro session ⟨⟩
  · rintro session kept ⟨⟩

end Survival

/-- Whatever saves fail, tear or are killed half way, in however many runs of the viewer:
the file is always one a viewer can start from, it says what was last committed (or what
it said first), and a viewer that runs remembers just that as saved; so settings it could
not save are tried again, and the first save to get through commits them. -/
theorem settings_survive {format : Format} (reads : format.Reads) {store : Store}
    {original tmp : Option Text} {first : Config} (usable : format.read original = .ok first)
    {labels : List Label} {world : World}
    (ran : run (World.step format) labels (World.new (some store) original tmp) = some world) :
    (∃ kept, store.load format world.file none = .ok kept ∧
        kept.Alike (world.committed.getLastD first) ∧
        ∀ session, world.session = some session → session.saved.Alike kept) ∧
      ∀ session config text, world.session = some session → session.stage = .idle →
        config.eq session.saved = false → format.render config = .ok text →
        ∃ after, run (World.step format) [.persist config, .make none, .write .whole, .rename none]
          world = some after ∧ after.committed = world.committed ++ [config] := by
  have safe : world.Safe format store original :=
    run_preserves (fun _ _ _ safe stepped => safe.step reads stepped)
      (World.new_safe store original tmp) ran
  constructor
  · obtain ⟨kept, read, alike⟩ := safe.file.reads reads usable
    refine ⟨kept, ?_, alike, fun session here => safe.saved session kept here read⟩
    simp only [Store.load, read]
  · rintro ⟨saved, stage⟩ config text here idle changed rendered
    dsimp only at idle changed
    subst idle
    let ready : World :=
      { world with tmp := some text, session := some ⟨saved, .renaming config⟩ }
    refine ⟨ready.rename config, ?_, rfl⟩
    simp [run, World.step, World.persist, World.stage, World.write, ready, here, changed,
      safe.store, rendered]

/-- A torn write, a second try, nothing left to save, and a kill. -/
theorem torn_ran {format : Format} {store : Store} {config : Config} {text : Text}
    (renders : format.render config = .ok text) (parses : format.parse text = .ok config)
    (changed : config.eq Config.default = false) (same : config.eq config = true)
    (length : Nat) (reason : String) :
    run (World.step format) [.boot none, .persist config, .make none,
      .write (.torn length reason), .persist config, .make none, .write .whole, .rename none,
      .persist config, .kill 0, .boot none] (World.new (some store) none none) =
        some ⟨some store, some text, none, some ⟨config, .idle⟩, [.io store.tmpPath reason],
          [config]⟩ := by
  simp [run, World.step, World.new, World.persist, World.stage, World.write, World.warn,
    World.rename, World.kill, Store.load, Format.read, renders, parses, changed, same]

def relative : Config := { Config.default with mouseMode := .relative }

def textOf (s : String) : Text := s.toList.map fun c => BitVec.ofNat 8 c.toNat

def relativeText : Text :=
  textOf ("menu_open = true\nmouse_mode = \"relative\"\ncursor_hidden = false\n" ++
    "wheel_direction = \"natural\"\naudio_muted = false\npill_x = 16.0\npill_y = 16.0\n" ++
    "layout = \"us\"\n")

/-- TOML, as far as the runs below use it. -/
def oneFile : Format where
  parse text :=
    if text = relativeText then .ok relative
    else .error (.toml "TOML parse error at line 1, column 13")
  render config := if config = relative then .ok relativeText else .error "not rendered"

theorem oneFile_reads : oneFile.Reads := by
  intro config text rendered
  simp only [oneFile] at rendered
  split at rendered
  next same =>
    have whole : relativeText = text := by injection rendered
    have parsed : oneFile.parse text = .ok relative := if_pos whole.symm
    exact ⟨relative, parsed, same ▸ .refl config⟩
  · cases rendered

/-- A torn write, a second try that is committed, and a kill in the middle of a third. -/
def tornSave : List Label :=
  [.boot none, .persist relative, .make none, .write (.torn 40 "no space left on device"),
    .persist relative, .make none, .write .whole, .rename none, .persist relative, .kill 0,
    .boot none]

def tornWorld : World :=
  (run (World.step oneFile) tornSave (World.new (some (Store.at "/home/u/.config")) none none)).getD
    (World.new none none none)

theorem oneFile_renders : oneFile.render relative = .ok relativeText := by
  simp [oneFile]

theorem oneFile_parses : oneFile.parse relativeText = .ok relative := by
  simp [oneFile]

theorem tornSave_ran : run (World.step oneFile) tornSave
    (World.new (some (Store.at "/home/u/.config")) none none) =
      some ⟨some (Store.at "/home/u/.config"), some relativeText, none, some ⟨relative, .idle⟩,
        [.io (Store.at "/home/u/.config").tmpPath "no space left on device"], [relative]⟩ :=
  torn_ran oneFile_renders oneFile_parses (by decide) (by decide) _ _

theorem settings_survive_torn :
    ∃ kept, (Store.at "/home/u/.config").load oneFile tornWorld.file none = .ok kept ∧
      kept.Alike relative := by
  have ran : run (World.step oneFile) tornSave
      (World.new (some (Store.at "/home/u/.config")) none none) = some tornWorld := by
    rw [tornWorld, tornSave_ran, Option.getD_some]
  have missing : oneFile.read none = .ok Config.default := rfl
  obtain ⟨⟨kept, loaded, alike, -⟩, -⟩ := settings_survive oneFile_reads missing ran
  have last : tornWorld.committed.getLastD Config.default = relative := by
    rw [tornWorld, tornSave_ran]
    rfl
  exact ⟨kept, loaded, last ▸ alike⟩

theorem boot_refused {format : Format} {store : Store} {original tmp : Option Text}
    {refused : Refused} (malformed : format.read original = .error refused)
    (failed : Option String) :
    World.step format (.boot failed) (World.new (some store) original tmp) =
      some (World.new (some store) original tmp) := by
  have unusable (config : Config) : store.load format original failed ≠ .ok config := by
    intro loaded
    cases (load_ok loaded).symm.trans malformed
  simp only [World.step, World.new]
  split
  next config loaded => exact absurd loaded (unusable config)
  · rfl

/-- A file that is no settings file is never touched: no viewer starts over it. -/
theorem malformed_settings_stay {format : Format} {store : Store} {original tmp : Option Text}
    {refused : Refused} (malformed : format.read original = .error refused)
    {labels : List Label} {world : World}
    (ran : run (World.step format) labels (World.new (some store) original tmp) = some world) :
    world.file = original ∧ world.tmp = tmp ∧ world.session = none ∧ world.committed = [] := by
  have kept : world = World.new (some store) original tmp := by
    refine run_preserves (P := (· = World.new (some store) original tmp)) ?_ rfl ran
    rintro label now next rfl stepped
    cases label with
    | boot failed => exact Option.some.inj (stepped.symm.trans (boot_refused malformed failed))
    | persist | make | write | rename | remove | kill => cases stepped
  rw [kept]
  exact ⟨rfl, rfl, rfl, rfl⟩

theorem malformed_settings_stay_yes :
    ((run (World.step oneFile) [.boot none, .boot none]
      (World.new (some (Store.at "/home/u/.config")) (some (textOf "menu_open = \"yes\"\n"))
        none)).getD (World.new none none none)).file = some (textOf "menu_open = \"yes\"\n") := by
  have other : textOf "menu_open = \"yes\"\n" ≠ relativeText := by
    simp only [relativeText, textOf, String.toList_append, List.map_append]
    decide
  have malformed : oneFile.read (some (textOf "menu_open = \"yes\"\n")) =
      .error (.toml "TOML parse error at line 1, column 13") := by
    simp [Format.read, oneFile, other]
  refine (malformed_settings_stay malformed (run_getD ?_)).1
  rw [run, boot_refused malformed, Option.bind_some, run, boot_refused malformed]
  rfl

end NanoKvm.Viewer.Settings

import Mathlib.Tactic.Common
import NodeAsm.CommandLine.Command

/-!
# Layers of settings

A run takes each of its settings from the uppermost layer that gives it: the flags, the
settings file, the defaults. The settings are checked twice, once below the flags and
once with them, and a run goes on only if both checks pass. Whatever it reads by name
from there on is known: the level, the emitter and the policy.
-/

namespace NodeAsm

/-- What comes of two operations comes of the first and then of the second. -/
theorem bind_eq_ok_iff {α β : Type} {x : Except Fault α} {f : α → Except Fault β} {b : β} :
    (x >>= f) = .ok b ↔ ∃ a, x = .ok a ∧ f a = .ok b := by
  constructor
  · intro done
    cases x with
    | error fault => contradiction
    | ok a => exact ⟨a, rfl, done⟩
  · rintro ⟨a, rfl, done⟩
    exact done

/-! ## Names -/

/-- In a list that finds every member under its own name, a name stands for a value exactly
if the value is a member and it is its name. -/
theorem find?_name_eq_some_iff {α : Type} {name : α → Text} {values : List α}
    (found : ∀ a ∈ values, values.find? (fun b => name b == name a) = some a) {t : Text} {a : α} :
    values.find? (fun b => name b == t) = some a ↔ a ∈ values ∧ t = name a := by
  constructor
  · intro some
    have named := List.find?_some some
    exact ⟨List.mem_of_find?_eq_some some, (eq_of_beq named).symm⟩
  · rintro ⟨member, rfl⟩
    exact found a member

theorem Format.read_eq_ok_iff {t : Text} {f : Format} : read t = .ok f ↔ t = f.name := by
  have named : ofName? t = some f ↔ t = f.name := by
    refine (find?_name_eq_some_iff fun f _ => ofName?_name f).trans (and_iff_right ?_)
    cases f <;> decide
  rw [← named, read]
  cases ofName? t <;> simp

/-- Of all policies, a name is read as one that is known. -/
theorem OverflowPolicy.read_eq_ok_iff {t : Text} {p : OverflowPolicy} :
    read t = .ok p ↔ p ∈ known ∧ t = p.name := by
  have named : ofName? t = some p ↔ p ∈ known ∧ t = p.name :=
    find?_name_eq_some_iff fun _ member => ofName?_name member
  rw [← named, read]
  cases ofName? t <;> simp

theorem Level.read_eq_ok_iff {t : Text} {l : Level} : read t = .ok l ↔ ofText? t = some l := by
  rw [read]
  cases ofText? t <;> simp

/-- The name of a format is the name of its emitter. -/
theorem Emitter.named_name (f : Format) : named f.name = .ok f.emitter := by
  cases f <;> rfl

/-! ## Checked settings -/

namespace Settings

/-- Settings whose names are all known. -/
structure Valid (s : Settings) : Prop where
  format : ∃ f : Format, s.format = f.name
  overflow : ∃ p ∈ OverflowPolicy.known, s.overflow = p.name
  level : ∃ l, Level.ofText? s.logLevel = some l

/-- The choices that settings name. -/
structure Chooses (s : Settings) (c : Choices) : Prop where
  format : s.format = c.format.name
  known : c.overflow ∈ OverflowPolicy.known
  overflow : s.overflow = c.overflow.name
  lint : s.lint = c.lint
  listing : s.listing = c.listing
  level : Level.ofText? s.logLevel = some c.level

theorem Valid.exists_chooses {s : Settings} (valid : s.Valid) : ∃ c, s.Chooses c := by
  obtain ⟨⟨format, formatName⟩, ⟨overflow, known, overflowName⟩, ⟨level, levelText⟩⟩ := valid
  exact ⟨⟨format, overflow, s.lint, s.listing, level⟩, formatName, known, overflowName, rfl, rfl,
    levelText⟩

theorem Chooses.valid {s : Settings} {c : Choices} (chosen : s.Chooses c) : s.Valid :=
  ⟨⟨c.format, chosen.format⟩, ⟨c.overflow, chosen.known, chosen.overflow⟩,
    ⟨c.level, chosen.level⟩⟩

/-- A check gives what the settings name. -/
theorem check_eq_ok_iff {s : Settings} {c : Choices} : s.check = .ok c ↔ s.Chooses c := by
  constructor
  · intro checked
    obtain ⟨format, readFormat, checked⟩ := bind_eq_ok_iff.mp checked
    obtain ⟨overflow, readOverflow, checked⟩ := bind_eq_ok_iff.mp checked
    obtain ⟨level, readLevel, checked⟩ := bind_eq_ok_iff.mp checked
    cases checked
    obtain ⟨known, named⟩ := OverflowPolicy.read_eq_ok_iff.mp readOverflow
    exact ⟨Format.read_eq_ok_iff.mp readFormat, known, named, rfl, rfl,
      Level.read_eq_ok_iff.mp readLevel⟩
  · rintro ⟨format, known, overflow, lint, listing, level⟩
    apply bind_eq_ok_iff.mpr
    refine ⟨c.format, Format.read_eq_ok_iff.mpr format, bind_eq_ok_iff.mpr ?_⟩
    refine ⟨c.overflow, OverflowPolicy.read_eq_ok_iff.mpr ⟨known, overflow⟩, bind_eq_ok_iff.mpr ?_⟩
    refine ⟨c.level, Level.read_eq_ok_iff.mpr level, ?_⟩
    rw [lint, listing]
    rfl

/-- A check passes exactly if all names are known. -/
theorem exists_check_eq_ok_iff {s : Settings} : (∃ c, s.check = .ok c) ↔ s.Valid := by
  simp only [check_eq_ok_iff]
  constructor
  · rintro ⟨c, chosen⟩
    exact chosen.valid
  · exact Valid.exists_chooses

theorem valid_default : default.Valid :=
  ⟨⟨.hex, rfl⟩, ⟨.wrap, by decide, rfl⟩, ⟨.warn, by decide +kernel⟩⟩

/-! ## Layers -/

/-- The settings that two layers give over the defaults: each is the value of the upper
layer if there is one, else that of the lower layer if there is one, else the default. -/
def layered (upper lower : Layer) : Settings where
  format := (upper.format.or lower.format).getD default.format
  overflow := (upper.overflow.or lower.overflow).getD default.overflow
  lint := (upper.lint.or lower.lint).getD default.lint
  listing := (upper.listing.or lower.listing).getD default.listing
  logLevel := (upper.logLevel.or lower.logLevel).getD default.logLevel

/-- Laying the layers one over the other takes each setting from the uppermost that gives
it. -/
theorem overlay_overlay_default (upper lower : Layer) :
    (default.overlay lower).overlay upper = layered upper lower := by
  simp only [overlay, layered, Option.getD_or]

/-- Reading a text succeeds exactly if it is decoded and what it gives is valid over the
defaults. -/
theorem read_eq_ok_iff {data : Text} {s : Settings} :
    read data = .ok s ↔
      ∃ layer, layerOf data = .ok layer ∧ s = default.overlay layer ∧ s.Valid := by
  constructor
  · intro done
    obtain ⟨layer, decoded, done⟩ := bind_eq_ok_iff.mp done
    obtain ⟨c, checked, done⟩ := bind_eq_ok_iff.mp done
    cases done
    exact ⟨layer, decoded, rfl, exists_check_eq_ok_iff.mp ⟨c, checked⟩⟩
  · rintro ⟨layer, decoded, rfl, valid⟩
    obtain ⟨c, checked⟩ := exists_check_eq_ok_iff.mpr valid
    exact bind_eq_ok_iff.mpr ⟨layer, decoded, bind_eq_ok_iff.mpr ⟨c, checked, rfl⟩⟩

end Settings

namespace CommandLine

/-! ## The settings of a run -/

/-- What the settings file of a run gives: nothing if none is named, and else what its
text is decoded to. -/
inductive FileGives (options : Options) (readFile : Text → Except Fault Text) : Layer → Prop where
  | none : options.config = [] → FileGives options readFile Layer.empty
  | file {data : Text} {layer : Layer} : options.config ≠ [] →
      readFile options.config = .ok data → Settings.layerOf data = .ok layer →
        FileGives options readFile layer

theorem fileSettings_eq_ok_iff {path : Text} {data : Except Fault Text} {s : Settings} :
    fileSettings path data = .ok s ↔ ∃ t, data = .ok t ∧ Settings.read t = .ok s := by
  unfold fileSettings
  constructor
  · intro done
    split at done
    · contradiction
    · rename_i t
      split at done
      · contradiction
      · rename_i read
        exact ⟨t, rfl, read.trans done⟩
  · rintro ⟨t, rfl, read⟩
    simp only [read]

/-- The settings below the flags are those of a file that is valid by itself. -/
theorem baseSettings_eq_ok_iff {options : Options} {readFile : Text → Except Fault Text}
    {s : Settings} :
    baseSettings options readFile = .ok s ↔
      ∃ file, FileGives options readFile file ∧ s = Settings.default.overlay file ∧ s.Valid := by
  rw [baseSettings]
  split
  next unnamed =>
      have config : options.config = [] := List.isEmpty_iff.mp unnamed
      constructor
      · rintro ⟨⟩
        exact ⟨Layer.empty, .none config, rfl, Settings.valid_default⟩
      · rintro ⟨file, _ | ⟨named, _, _⟩, rfl, _⟩
        · rfl
        · exact absurd config named
  next named =>
      have config : options.config ≠ [] := fun config => named (List.isEmpty_iff.mpr config)
      simp only [fileSettings_eq_ok_iff, Settings.read_eq_ok_iff]
      constructor
      · rintro ⟨data, read, file, decoded, base, valid⟩
        exact ⟨file, .file config read decoded, base, valid⟩
      · rintro ⟨file, unnamed | ⟨_, read, decoded⟩, base, valid⟩
        · exact absurd unnamed config
        · exact ⟨_, read, file, decoded, base, valid⟩

/-- The settings of a run, before the last check. -/
theorem settings_eq_ok_iff {options : Options} {readFile : Text → Except Fault Text}
    {s : Settings} :
    settings options readFile = .ok s ↔
      ∃ file, FileGives options readFile file ∧ (Settings.default.overlay file).Valid ∧
        s = Settings.layered options.layer file := by
  rw [settings, bind_eq_ok_iff]
  constructor
  · rintro ⟨base, below, ⟨⟩⟩
    obtain ⟨file, given, rfl, valid⟩ := baseSettings_eq_ok_iff.mp below
    exact ⟨file, given, valid, Settings.overlay_overlay_default options.layer file⟩
  · rintro ⟨file, given, valid, rfl⟩
    refine ⟨_, baseSettings_eq_ok_iff.mpr ⟨file, given, rfl, valid⟩, ?_⟩
    rw [Settings.overlay_overlay_default]
    rfl

/-- The choices of a run are what its settings name. -/
theorem choices_eq_ok_iff {options : Options} {readFile : Text → Except Fault Text}
    {c : Choices} :
    choices options readFile = .ok c ↔
      ∃ s, settings options readFile = .ok s ∧ s.Chooses c := by
  rw [choices, bind_eq_ok_iff]
  simp only [Settings.check_eq_ok_iff]

theorem execute_eq_compileFile {args : List Text} {options : Options} {source : Text}
    {files : FileTree} {c : Choices} (read : Request.read args = .ok (.compile options source))
    (valid : choices options files.read = .ok c) (outlet : Outlet) :
    execute args files outlet = compileFile options source c files outlet := by
  simp only [execute, read, valid]

/-- A run has choices exactly if its settings file, if it names one, is decoded and valid
over the defaults, and its settings are valid with the flags as well. Each setting then is
what the flag says, else what the file says, else the default. In every run that goes on,
the level, the emitter and the policy can be read by name, and they are those of the
compilation. -/
theorem settings_layered :
    (∀ (options : Options) (readFile : Text → Except Fault Text),
      ((∃ c, choices options readFile = .ok c) ↔
        ∃ file, FileGives options readFile file ∧ (Settings.default.overlay file).Valid ∧
          (Settings.layered options.layer file).Valid) ∧
        ∀ c, choices options readFile = .ok c →
          ∃ file, FileGives options readFile file ∧
            settings options readFile = .ok (Settings.layered options.layer file) ∧
            (Settings.layered options.layer file).Chooses c) ∧
      ∀ (args : List Text) (files : FileTree) (outlet : Outlet) (options : Options)
          (source : Text) (c : Choices),
        Request.read args = .ok (.compile options source) →
        choices options files.read = .ok c →
        ∃ s, settings options files.read = .ok s ∧ Level.read s.logLevel = .ok c.level ∧
          Emitter.named s.format = .ok c.format.emitter ∧ s.overflow = c.overflow.name ∧
          (s.overflow = OverflowPolicy.wrap.name ∨ s.overflow = OverflowPolicy.discard.name) ∧
          execute args files outlet = compileFile options source c files outlet := by
  constructor
  · intro options readFile
    simp only [choices_eq_ok_iff]
    refine ⟨⟨?_, ?_⟩, ?_⟩
    · rintro ⟨c, s, read, chosen⟩
      obtain ⟨file, given, alone, rfl⟩ := settings_eq_ok_iff.mp read
      exact ⟨file, given, alone, chosen.valid⟩
    · rintro ⟨file, given, alone, valid⟩
      obtain ⟨c, chosen⟩ := valid.exists_chooses
      exact ⟨c, _, settings_eq_ok_iff.mpr ⟨file, given, alone, rfl⟩, chosen⟩
    · rintro c ⟨s, read, chosen⟩
      obtain ⟨file, given, _, rfl⟩ := settings_eq_ok_iff.mp read
      exact ⟨file, given, read, chosen⟩
  · intro args files outlet options source c asked valid
    obtain ⟨s, read, chosen⟩ := choices_eq_ok_iff.mp valid
    have policy : s.overflow = OverflowPolicy.wrap.name ∨
        s.overflow = OverflowPolicy.discard.name := by
      rw [chosen.overflow]
      rcases OverflowPolicy.mem_known.mp chosen.known with wraps | discards
      · exact Or.inl (congrArg OverflowPolicy.name wraps)
      · exact Or.inr (congrArg OverflowPolicy.name discards)
    have emitter : Emitter.named s.format = .ok c.format.emitter := by
      rw [chosen.format, Emitter.named_name]
    exact ⟨s, read, Level.read_eq_ok_iff.mpr chosen.level, emitter, chosen.overflow, policy,
      execute_eq_compileFile asked valid outlet⟩

/-- A tree with a source and a settings file. -/
def layeredTree : FileTree :=
  ⟨[], [(["a"], "@1\nNOP\n"), (["c"], "format: yaml\noverflow: discard\nlint: true\n")]⟩

/-- Flags that contradict the settings file. -/
def contraryFlags : Options :=
  ⟨"c", [], false, ⟨some "hex", .none, some false, .none, .none⟩⟩

theorem settings_layered_of_contrary :
    choices contraryFlags layeredTree.read = .ok ⟨.hex, .discard, false, false, .warn⟩ ∧
      ∃ s, settings contraryFlags layeredTree.read = .ok s ∧ Level.read s.logLevel = .ok .warn ∧
        Emitter.named s.format = .ok Output.hexEmitter ∧
        s.overflow = OverflowPolicy.discard.name ∧
        execute ["--config", "c", "--format=hex", "--lint=false", "a"] layeredTree .healthy =
          compileFile contraryFlags "a" ⟨.hex, .discard, false, false, .warn⟩ layeredTree
            .healthy := by
  have valid : choices contraryFlags layeredTree.read =
      .ok ⟨.hex, .discard, false, false, .warn⟩ := by
    have chosen : (choices contraryFlags layeredTree.read).toOption =
        some ⟨.hex, .discard, false, false, .warn⟩ := by decide +kernel
    cases made : choices contraryFlags layeredTree.read with
    | error f =>
        rw [made] at chosen
        contradiction
    | ok c =>
        rw [made] at chosen
        exact congrArg Except.ok (Option.some.inj chosen)
  obtain ⟨s, read, level, emitter, policy, _, run⟩ :=
    settings_layered.2 ["--config", "c", "--format=hex", "--lint=false", "a"] layeredTree
      .healthy contraryFlags "a" _ rfl valid
  exact ⟨valid, s, read, level, emitter, policy, run⟩

end CommandLine

end NodeAsm

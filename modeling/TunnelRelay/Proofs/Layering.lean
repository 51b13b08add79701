import TunnelRelay.App.Preparation
/-!
# Settings come in layers

A later layer takes precedence. What is set one after the other gives each name the
value that it was given last (`get?_update`); a layer counts for the names that are
upper case, and the overrides for those to which they give something. So the value
of a name after loading is found by asking the layers from the last to the first.

A file is there and binds names, or it is absent, or it cannot be read
(`Files.content`). Loading stops at the first file that cannot be read, and at the
first that is absent though it has to be there; what comes after it is not looked
at. An absent file that need not be there is a layer of nothing.
-/

namespace TunnelRelay

namespace Settings

variable {s : Settings} {overrides : List Assignment} {name : String}

/-! ## Setting names -/

/-- The value that a list of assignments gives a name in the end. -/
def lastValue (assignments : List Assignment) (name : String) : Option Value :=
  assignments.reverse.lookup name

theorem lookup_cons (a : Assignment) (rest : List Assignment) (name : String) :
    (a :: rest).lookup name = if name = a.1 then some a.2 else rest.lookup name := by
  rw [List.lookup_cons]
  split <;> simp_all

theorem lastValue_cons (a : Assignment) (rest : List Assignment) (name : String) :
    lastValue (a :: rest) name =
      (lastValue rest name).or (if name = a.1 then some a.2 else none) := by
  rw [lastValue, List.reverse_cons, List.lookup_append, lookup_cons]
  rfl

theorem lookup_putIn (key : String) (value : Value) (entries : List Assignment) (name : String) :
    (putIn key value entries).lookup name =
      if name = key then some value else entries.lookup name := by
  induction entries with
  | nil => exact lookup_cons (key, value) [] name
  | cons entry rest ih =>
    rw [putIn, lookup_cons entry]
    split
    · rename_i hentry
      rw [lookup_cons, hentry]
      split <;> rfl
    · rename_i hentry
      rw [lookup_cons, ih]
      split
      · rename_i h
        rw [if_neg fun heq => hentry (h.symm.trans heq)]
      · rfl

/-- **The last assignment to a name counts**, and without one the name keeps its
value. -/
theorem get?_update (s : Settings) (assignments : List Assignment) (name : String) :
    (s.update assignments).get? name = (lastValue assignments name).or (s.get? name) := by
  induction assignments generalizing s with
  | nil => rfl
  | cons a rest ih =>
    have hput : (s.put a).get? name = if name = a.1 then some a.2 else s.get? name :=
      lookup_putIn a.1 a.2 s.entries name
    rw [update, List.foldl_cons, ← update, ih, hput, lastValue_cons, Option.or_assoc]
    split <;> rfl

/-! ## Layers -/

/-- The value that a layer gives a name. -/
def layerValue (layer : List Assignment) (name : String) : Option Value :=
  if isCounted name then lastValue layer name else none

theorem lastValue_counted (layer : List Assignment) (name : String) :
    lastValue (layer.filter (isCounted ·.1)) name = layerValue layer name := by
  unfold layerValue
  induction layer with
  | nil => simp [lastValue]
  | cons a rest ih =>
    rw [List.filter_cons, lastValue_cons]
    by_cases hname : name = a.1
    · -- whether its value counts is told by its name
      subst hname
      split
      · rename_i hcounted
        rw [if_pos hcounted] at ih
        rw [lastValue_cons, ih]
      · rename_i hnot
        rw [ih, if_neg hnot]
    · rw [if_neg hname, Option.or_none, ← ih]
      split
      · rw [lastValue_cons, if_neg hname, Option.or_none]
      · rfl

/-- A layer takes precedence over what was there before. -/
theorem get?_addLayer (s : Settings) (layer : List Assignment) (name : String) :
    (s.addLayer layer).get? name = (layerValue layer name).or (s.get? name) := by
  rw [addLayer, get?_update, lastValue_counted]

/-- What overrides give a name, if they have it, and not nothing. -/
def overrideOf (overrides : List Assignment) (name : String) : Option Value :=
  (overrides.lookup name).filter (· ≠ .none)

theorem lookup_eq_none (hname : name ∉ overrides.map (·.1)) : overrides.lookup name = none := by
  induction overrides with
  | nil => rfl
  | cons a rest ih =>
    rw [List.map_cons, List.mem_cons, not_or] at hname
    rw [lookup_cons, if_neg hname.1, ih hname.2]

theorem lastValue_given (hmap : (overrides.map (·.1)).Nodup) (name : String) :
    lastValue (overrides.filter (·.2 ≠ .none)) name = overrideOf overrides name := by
  induction overrides with
  | nil => rfl
  | cons a rest ih =>
    rw [List.map_cons, List.nodup_cons] at hmap
    have hrest := ih hmap.2
    rw [overrideOf, lookup_cons, List.filter_cons]
    by_cases hname : name = a.1
    · -- it has the name to itself
      subst hname
      rw [overrideOf, lookup_eq_none hmap.1, Option.filter_none] at hrest
      rw [if_pos rfl, Option.filter_some]
      split
      · rw [lastValue_cons, hrest, if_pos rfl]
        rfl
      · exact hrest
    · rw [if_neg hname, ← overrideOf, ← hrest]
      split
      · rw [lastValue_cons, if_neg hname, Option.or_none]
      · rfl

/-- Overrides take precedence over all else. -/
theorem get?_addOverrides (s : Settings) (hmap : (overrides.map (·.1)).Nodup) (name : String) :
    (s.addOverrides overrides).get? name = (overrideOf overrides name).or (s.get? name) := by
  have hgiven : s.addOverrides overrides = s.update (overrides.filter (·.2 ≠ .none)) := by
    rw [addOverrides]
    congr 2
    funext a
    cases a.2 <;> simp
  rw [hgiven, get?_update, lastValue_given hmap]

/-! ## Files -/

/-- What is found where a file is looked for. -/
inductive Content where
  | bindings (assignments : List Assignment)
  | absent
  | unreadable (fault : Fault)

namespace Content

/-- What a file adds to the settings. -/
def layer : Content → List Assignment
  | .bindings assignments => assignments
  | .absent | .unreadable _ => []

/-- Whether loading goes on after a file, unless a fault ends it. -/
def verdict (mandatory : Bool) : Content → Except Fault Bool
  | .bindings _ => .ok true
  | .absent => .ok !mandatory
  | .unreadable fault => .error fault

theorem verdict_eq_false_iff {mandatory : Bool} {c : Content} :
    c.verdict mandatory = .ok false ↔ mandatory = true ∧ c = .absent := by
  cases c <;> cases mandatory <;> simp [verdict]

theorem verdict_eq_error_iff {mandatory : Bool} {fault : Fault} {c : Content} :
    c.verdict mandatory = .error fault ↔ c = .unreadable fault := by
  cases c <;> simp [verdict]

/-- What ends the loading adds nothing. -/
theorem layer_of_verdict {mandatory : Bool} {c : Content} (h : c.verdict mandatory ≠ .ok true) :
    c.layer = [] := by
  cases c with
  | bindings => exact absurd rfl h
  | absent | unreadable => rfl

end Content

namespace Files

/-- What is found under a name. -/
def content (files : Files) (name : String) : Content :=
  match files.read name with
  | .ok script =>
    match script.assignments with
    | .ok assignments => .bindings assignments
    | .error fault => .unreadable fault
  | .error fault => if isAbsence fault then .absent else .unreadable fault

/-- **A file is absent** if there is nothing under its name, if a directory is, or if
something that is no directory is on the way. -/
def Absent (files : Files) (name : String) : Prop :=
  files.read name = .error notFound ∨ files.read name = .error isADirectory ∨
    files.read name = .error notADirectory

/-- The faults of an absent file are those that say so. -/
theorem isAbsence_of_absent {fault : Fault}
    (h : fault = notFound ∨ fault = isADirectory ∨ fault = notADirectory) :
    isAbsence fault = true := by
  rcases h with rfl | rfl | rfl <;> decide

/-- A walk that finds no file has met nothing, a directory at its end, or something
else on its way. -/
theorem absent_of_walk {files : Files} {reached pieces : List String} {fault : Fault}
    (h : files.walk reached pieces = .error fault) (habsence : isAbsence fault = true) :
    fault = notFound ∨ fault = isADirectory ∨ fault = notADirectory := by
  induction pieces generalizing reached with
  | nil =>
    rw [walk] at h
    split at h
    · cases h
    · rename_i present _
      obtain rfl := Except.error.inj h
      rw [habsence] at present
      cases present
    · exact Or.inr (Or.inl (Except.error.inj h).symm)
    · exact Or.inl (Except.error.inj h).symm
  | cons piece rest ih =>
    rw [walk] at h
    split at h
    · split at h
      · obtain rfl := Except.error.inj h
        exact absurd habsence (by decide)
      · exact ih h
    · simp_all
    · simp_all
    · simp_all

theorem content_eq_absent_iff {files : Files} {name : String} :
    files.content name = .absent ↔ files.Absent name := by
  unfold content Absent
  cases hread : files.read name with
  | ok script =>
    dsimp only
    split <;> simp
  | error fault =>
    have hfault : isAbsence fault = true ↔
        fault = notFound ∨ fault = isADirectory ∨ fault = notADirectory := by
      refine ⟨fun habsence => ?_, isAbsence_of_absent⟩
      simp only [read] at hread
      split at hread
      · obtain rfl := Except.error.inj hread
        exact absurd habsence (by decide)
      · split at hread
        · obtain rfl := Except.error.inj hread
          exact absurd habsence (by decide)
        · exact absent_of_walk hread habsence
    simp only [Except.error.injEq, ← hfault]
    split <;> simp_all

end Files

namespace Layers

variable {files : Files} {mandatory : Bool}

theorem named_append {suffix : String} (h : suffix ≠ "") (name : String) :
    named (some (name ++ suffix)) = some (name ++ suffix) := by
  simp [named, h]

theorem loadFile_eq (files : Files) (s : Settings) (name : String) (mandatory : Bool) :
    (loadFile files s name mandatory).settings = s.addLayer (files.content name).layer ∧
      (loadFile files s name mandatory).result = (files.content name).verdict mandatory := by
  unfold loadFile Files.content
  cases files.read name with
  | error fault =>
    dsimp only
    split <;> exact ⟨rfl, rfl⟩
  | ok script =>
    dsimp only
    cases script.assignments <;> exact ⟨rfl, rfl⟩

/-- Loading goes on after a file that lets it. -/
theorem loadFiles_passed (s : Settings) (rest : List (String × Bool))
    (h : (files.content name).verdict mandatory = .ok true) :
    (loadFiles files s ((name, mandatory) :: rest)).settings =
        (loadFiles files (s.addLayer (files.content name).layer) rest).settings ∧
      (loadFiles files s ((name, mandatory) :: rest)).result =
        (loadFiles files (s.addLayer (files.content name).layer) rest).result := by
  obtain ⟨hsettings, hresult⟩ := loadFile_eq files s name mandatory
  rw [loadFiles, hresult, h, hsettings]
  exact ⟨rfl, rfl⟩

/-- Loading stops at a file that does not. -/
theorem loadFiles_stopped (s : Settings) (rest : List (String × Bool))
    (h : (files.content name).verdict mandatory ≠ .ok true) :
    (loadFiles files s ((name, mandatory) :: rest)).settings = s ∧
      (loadFiles files s ((name, mandatory) :: rest)).result =
        (files.content name).verdict mandatory := by
  obtain ⟨hsettings, hresult⟩ := loadFile_eq files s name mandatory
  have hempty := Content.layer_of_verdict h
  rw [loadFiles]
  split
  · rename_i hpassed
    exact absurd (hresult.symm.trans hpassed) h
  · exact ⟨hsettings.trans (by rw [hempty]; rfl), hresult⟩

/-- An absent file that need not be there is as good as none. -/
theorem loadFiles_optional (s : Settings) (rest : List (String × Bool))
    (h : files.Absent name) :
    loadFiles files s ((name, false) :: rest) = loadFiles files s rest := by
  have hfile : loadFile files s name false = { settings := s } := by
    unfold loadFile
    rcases h with h | h | h <;> rw [h] <;> rfl
  rw [loadFiles, hfile]
  rfl

end Layers

end Settings

namespace App

open Settings

variable {a : App} {around : Surroundings} {config : Option String} {debug : Bool}
variable {overrides : List Assignment} {f name : String} {fault : Fault}

/-! ## The files of an app -/

/-- The file that is loaded first, with whether it has to be there: the one that is
asked for, or else the default one. -/
def firstFile (a : App) (config : Option String) : String × Bool :=
  match Layers.named config with
  | some name => (name, true)
  | none => (a.name ++ ".cfg", false)

/-- The file that is loaded next, if the environment names one. It has to be there. -/
def secondFile (a : App) (around : Surroundings) : Option String :=
  Layers.named (around.environment (String.ofList (Text.upper a.name.toList) ++ "_SETTINGS"))

theorem fileNames_eq (a : App) (around : Surroundings) (config : Option String) :
    a.layers.fileNames around.environment config =
      a.firstFile config :: ((a.secondFile around).map (·, true)).toList := by
  simp only [Layers.fileNames, layers, Layers.named_append (by decide : ".cfg" ≠ ""),
    Layers.named_append (by decide : "_SETTINGS" ≠ ""), firstFile, secondFile]
  cases Layers.named config <;> rfl

/-- What is found of the first file. -/
def firstContent (a : App) (around : Surroundings) (config : Option String) : Content :=
  around.files.content (a.firstFile config).1

/-- Whether loading goes on after the first file, unless a fault ends it. -/
def firstVerdict (a : App) (around : Surroundings) (config : Option String) : Except Fault Bool :=
  (a.firstContent around config).verdict (a.firstFile config).2

/-- **A file that has to be there is missing**, and loading has come to it. -/
inductive Missing (a : App) (around : Surroundings) (config : Option String) : String → Prop
  | first {f : String} : a.firstFile config = (f, true) → around.files.Absent f →
      Missing a around config f
  | second {f : String} : a.firstVerdict around config = .ok true →
      a.secondFile around = some f → around.files.Absent f → Missing a around config f

/-- **A file cannot be read**, and loading has come to it. -/
inductive Unreadable (a : App) (around : Surroundings) (config : Option String) : Fault → Prop
  | first {fault : Fault} : a.firstContent around config = .unreadable fault →
      Unreadable a around config fault
  | second {f : String} {fault : Fault} : a.firstVerdict around config = .ok true →
      a.secondFile around = some f → around.files.content f = .unreadable fault →
      Unreadable a around config fault

/-- The value of a name without the second file and the overrides. -/
def below (a : App) (around : Surroundings) (config : Option String) (name : String) :
    Option Value :=
  (layerValue (a.firstContent around config).layer name).or
    ((layerValue a.defaults name).or (a.settings.get? name))

/-- The value of a name without the overrides. -/
def loaded (a : App) (around : Surroundings) (config : Option String) (name : String) :
    Option Value :=
  ((a.secondFile around).bind fun f => layerValue (around.files.content f).layer name).or
    (a.below around config name)

/-- Whether all files have been loaded that have to be, unless a fault ends it. -/
def verdict (a : App) (around : Surroundings) (config : Option String) : Except Fault Bool :=
  match a.firstVerdict around config with
  | .ok true => (a.secondFile around).elim (.ok true) fun f => (around.files.content f).verdict true
  | stopped => stopped

theorem verdict_of_stopped (h : a.firstVerdict around config ≠ .ok true) :
    a.verdict around config = a.firstVerdict around config := by
  unfold verdict
  split
  · rename_i hfirst
    exact absurd hfirst h
  · rfl

theorem verdict_eq_false_iff :
    a.verdict around config = .ok false ↔ ∃ f, a.Missing around config f := by
  constructor
  · intro h
    by_cases hfirst : a.firstVerdict around config = .ok true
    · rw [verdict, hfirst] at h
      cases hsecond : a.secondFile around with
      | none => simp [hsecond] at h
      | some f =>
        simp only [hsecond, Option.elim_some] at h
        have habsent := (Content.verdict_eq_false_iff.mp h).2
        exact ⟨f, .second hfirst hsecond (Files.content_eq_absent_iff.mp habsent)⟩
    · rw [verdict_of_stopped hfirst] at h
      obtain ⟨hmandatory, habsent⟩ := Content.verdict_eq_false_iff.mp h
      exact ⟨_, .first (Prod.ext rfl hmandatory) (Files.content_eq_absent_iff.mp habsent)⟩
  · rintro ⟨f, ⟨hfile, habsent⟩ | ⟨hfirst, hsecond, habsent⟩⟩
    · have hcontent := Files.content_eq_absent_iff.mpr habsent
      have hfirst : a.firstVerdict around config = .ok false := by
        rw [firstVerdict, firstContent, hfile, hcontent]
        rfl
      rw [verdict, hfirst]
    · have hcontent := Files.content_eq_absent_iff.mpr habsent
      simp only [verdict, hfirst, hsecond, Option.elim_some, hcontent]
      rfl

theorem verdict_eq_error_iff :
    a.verdict around config = .error fault ↔ a.Unreadable around config fault := by
  constructor
  · intro h
    by_cases hfirst : a.firstVerdict around config = .ok true
    · rw [verdict, hfirst] at h
      cases hsecond : a.secondFile around with
      | none => simp [hsecond] at h
      | some f =>
        simp only [hsecond, Option.elim_some] at h
        exact .second hfirst hsecond (Content.verdict_eq_error_iff.mp h)
    · rw [verdict_of_stopped hfirst] at h
      exact .first (Content.verdict_eq_error_iff.mp h)
  · rintro (hcontent | ⟨hfirst, hsecond, hcontent⟩)
    · have hfirst : a.firstVerdict around config = .error fault := by
        rw [firstVerdict, hcontent]
        rfl
      rw [verdict, hfirst]
    · simp only [verdict, hfirst, hsecond, Option.elim_some, hcontent]
      rfl

/-- **Loading ends at the first file that ends it**, and by then the layers before
have been loaded. -/
theorem load_eq (a : App) (around : Surroundings) (config : Option String) :
    (a.layers.load around a.settings config).result = a.verdict around config ∧
      (a.verdict around config = .ok true → ∀ name,
        (a.layers.load around a.settings config).settings.get? name =
          a.loaded around config name) ∧
      (a.verdict around config ≠ .ok true → ∀ name,
        (a.layers.load around a.settings config).settings.get? name =
          a.below around config name) := by
  have hload : a.layers.load around a.settings config =
      Layers.loadFiles around.files (a.settings.addLayer a.defaults)
        (a.firstFile config :: ((a.secondFile around).map (·, true)).toList) := by
    rw [← fileNames_eq]
    rfl
  have hbelow (name : String) :
      ((a.settings.addLayer a.defaults).addLayer (a.firstContent around config).layer).get? name =
        a.below around config name := by
    rw [get?_addLayer, get?_addLayer, below]
  rw [hload]
  by_cases hfirst : a.firstVerdict around config = .ok true
  · obtain ⟨hsettings, hresult⟩ :=
      Layers.loadFiles_passed (a.settings.addLayer a.defaults)
        ((a.secondFile around).map (·, true)).toList hfirst
    rw [hsettings, hresult, verdict, hfirst]
    cases hsecond : a.secondFile around with
    | none =>
      refine ⟨rfl, fun _ name => ?_, fun hstopped => absurd rfl hstopped⟩
      rw [loaded, hsecond]
      exact hbelow name
    | some f =>
      simp only [Option.map_some, Option.toList_some, Option.elim_some]
      by_cases hpassed : (around.files.content f).verdict true = .ok true
      · obtain ⟨hsettings, hresult⟩ :=
          Layers.loadFiles_passed ((a.settings.addLayer a.defaults).addLayer
            (a.firstContent around config).layer) [] hpassed
        refine ⟨hresult.trans hpassed.symm, fun _ name => ?_,
          fun hstopped => absurd hpassed hstopped⟩
        rw [loaded, hsecond, ← hbelow]
        exact (congrArg (Settings.get? · name) hsettings).trans (get?_addLayer _ _ name)
      · obtain ⟨hsettings, hresult⟩ :=
          Layers.loadFiles_stopped ((a.settings.addLayer a.defaults).addLayer
            (a.firstContent around config).layer) [] hpassed
        refine ⟨hresult, fun hother => absurd hother hpassed, fun _ name => ?_⟩
        rw [← hbelow]
        exact congrArg (Settings.get? · name) hsettings
  · obtain ⟨hsettings, hresult⟩ :=
      Layers.loadFiles_stopped (a.settings.addLayer a.defaults)
        ((a.secondFile around).map (·, true)).toList hfirst
    rw [verdict_of_stopped hfirst]
    refine ⟨hresult, fun hother => absurd hother hfirst, fun _ name => ?_⟩
    have hempty : (a.firstContent around config).layer = [] := Content.layer_of_verdict hfirst
    rw [← hbelow, hempty]
    exact congrArg (Settings.get? · name) hsettings

/-! ## Preparing an app -/

/-- The empty text is no URL of a destination. -/
theorem parse_empty (platform : Platform) :
    Destination.parse platform "" = .error .unknownScheme := by
  cases platform <;> rfl

/-- An app is ready only with a text that can be read as a destination. -/
theorem checkDestination_cases (a : App) :
    (∃ url d, a.settings.get? forwardToName = some (.string url) ∧
        Destination.parse a.platform url = .ok d ∧
        a.checkDestination = ({ a with forwardTo := some url }, [], .ok .ready)) ∨
      ∃ records prepared, prepared ≠ .ok .ready ∧ prepared ≠ .ok (.ends 1) ∧
        a.checkDestination = (a, records, prepared) := by
  unfold checkDestination
  split
  · rename_i fault _
    exact Or.inr ⟨[], .error fault, nofun, nofun, rfl⟩
  · rename_i url hurl
    split
    · rename_i rejection _
      exact Or.inr ⟨_, .ok (.ends 2), by simp, by simp, rfl⟩
    · rename_i d hparse
      refine Or.inl ⟨url, d, ?_, hparse, rfl⟩
      unfold configuredUrl at hurl
      split at hurl
      · rename_i text htext
        obtain rfl := Except.ok.inj hurl
        cases hvalue : a.settings.get? forwardToName with
        | none => simp [hvalue] at htext
        | some value => simpa [hvalue] using htext
      · -- without a URL that is set there is none to read
        split at hurl
        · cases hurl
        · obtain rfl := Except.ok.inj hurl
          rw [parse_empty] at hparse
          cases hparse

/-- **What a preparation can do.** -/
inductive Preparation (a : App) (around : Surroundings) (config : Option String) (debug : Bool)
    (overrides : List Assignment) : App × List Log.Record × Except Fault Prepared → Prop
  /-- A file cannot be read, or a file that has to be there is missing. -/
  | stopped {settings : Settings} {records : List Log.Record} {prepared : Except Fault Prepared} :
      (∀ name, settings.get? name = a.below around config name) →
      ((∃ fault, a.verdict around config = .error fault ∧ prepared = .error fault) ∨
        a.verdict around config = .ok false ∧ prepared = .ok (.ends 1)) →
      Preparation a around config debug overrides ({ a with debug, settings }, records, prepared)
  /-- All layers are there, and the destination cannot be taken from them. -/
  | refused {settings loaded : Settings} {records : List Log.Record}
      {prepared : Except Fault Prepared} : a.verdict around config = .ok true →
      (∀ name, loaded.get? name = a.loaded around config name) →
      settings = loaded.addOverrides overrides → prepared ≠ .ok .ready →
      prepared ≠ .ok (.ends 1) →
      Preparation a around config debug overrides ({ a with debug, settings }, records, prepared)
  /-- All layers are there, with a destination. -/
  | ready {settings loaded : Settings} {records : List Log.Record} {url : String}
      {d : Destination} : a.verdict around config = .ok true →
      (∀ name, loaded.get? name = a.loaded around config name) →
      settings = loaded.addOverrides overrides →
      settings.get? forwardToName = some (.string url) →
      Destination.parse a.platform url = .ok d →
      Preparation a around config debug overrides
        ({ a with debug, settings, forwardTo := some url }, records, .ok .ready)

/-- **Every preparation is one of these.** -/
theorem preparation (a : App) (around : Surroundings) (config : Option String) (debug : Bool)
    (overrides : List Assignment) :
    Preparation a around config debug overrides (a.prepare around config debug overrides) := by
  obtain ⟨hresult, hloaded, hbelow⟩ := load_eq a around config
  unfold prepare
  generalize hl : a.layers.load around a.settings config = l at hresult hloaded hbelow
  dsimp only
  cases hverdict : a.verdict around config with
  | error fault =>
    rw [hresult, hverdict]
    exact .stopped (hbelow (by rw [hverdict]; exact nofun)) (Or.inl ⟨fault, hverdict, rfl⟩)
  | ok all =>
    cases all with
    | false =>
      rw [hresult, hverdict]
      exact .stopped (hbelow (by rw [hverdict]; exact nofun)) (Or.inr ⟨hverdict, rfl⟩)
    | true =>
      rw [hresult, hverdict]
      rcases checkDestination_cases
          { a with debug, settings := l.settings.addOverrides overrides } with
        ⟨url, d, hurl, hparse, heq⟩ | ⟨records, prepared, hready, hone, heq⟩
      · simp only [heq]
        exact .ready hverdict (hloaded hverdict) rfl hurl hparse
      · simp only [heq]
        exact .refused hverdict (hloaded hverdict) rfl hready hone

namespace Preparation

variable {result : App × List Log.Record × Except Fault Prepared}

theorem ends_one_iff (hp : Preparation a around config debug overrides result) :
    result.2.2 = .ok (.ends 1) ↔ a.verdict around config = .ok false := by
  cases hp with
  | stopped _ hend =>
    rcases hend with ⟨fault, hverdict, rfl⟩ | ⟨hverdict, rfl⟩ <;> simp [hverdict]
  | refused hverdict _ _ _ hone => simp [hverdict, hone]
  | ready hverdict => simp [hverdict]

theorem raised (hp : Preparation a around config debug overrides result)
    (hverdict : a.verdict around config = .error fault) : result.2.2 = .error fault := by
  cases hp with
  | stopped _ hend =>
    rcases hend with ⟨own, hown, rfl⟩ | ⟨hown, -⟩
    · obtain rfl := Except.error.inj (hverdict.symm.trans hown)
      rfl
    · rw [hverdict] at hown
      cases hown
  | refused hown | ready hown =>
    rw [hverdict] at hown
    cases hown

theorem value (hp : Preparation a around config debug overrides result)
    (hmap : (overrides.map (·.1)).Nodup) (hverdict : a.verdict around config = .ok true)
    (name : String) : result.1.settings.get? name =
      (overrideOf overrides name).or (a.loaded around config name) := by
  cases hp with
  | stopped _ hend =>
    rcases hend with ⟨own, hown, -⟩ | ⟨hown, -⟩ <;>
    · rw [hverdict] at hown
      cases hown
  | refused _ hloaded hsettings | ready _ hloaded hsettings =>
    rw [hsettings, get?_addOverrides _ hmap, hloaded]

theorem below_of_stopped (hp : Preparation a around config debug overrides result)
    (hverdict : a.verdict around config ≠ .ok true) (name : String) :
    result.1.settings.get? name = a.below around config name := by
  cases hp with
  | stopped hbelow => exact hbelow name
  | refused hown | ready hown => exact absurd hown hverdict

/-- An app that is ready has a URL that can be read as a destination. -/
theorem readable (hp : Preparation a around config debug overrides result)
    (hready : result.2.2 = .ok .ready) :
    ∃ url d, result.1.forwardTo = some url ∧ Destination.parse result.1.platform url = .ok d := by
  cases hp with
  | stopped _ hend => rcases hend with ⟨fault, -, rfl⟩ | ⟨-, rfl⟩ <;> cases hready
  | refused _ _ _ hnot => exact absurd hready hnot
  | ready _ _ _ _ hparse => exact ⟨_, _, rfl, hparse⟩

theorem kept (hp : Preparation a around config debug overrides result)
    (hready : result.2.2 ≠ .ok .ready) : result.1.forwardTo = a.forwardTo := by
  cases hp with
  | stopped | refused => rfl
  | ready => exact absurd rfl hready

end Preparation

/-- A file that is asked for, or named by the environment. -/
def Demanded (a : App) (around : Surroundings) (config : Option String) (f : String) : Prop :=
  Layers.named config = some f ∨ a.secondFile around = some f

theorem firstFile_eq_iff : a.firstFile config = (f, true) ↔ Layers.named config = some f := by
  unfold firstFile
  cases Layers.named config <;> simp

theorem Missing.demanded (h : a.Missing around config f) :
    a.Demanded around config f ∧ around.files.Absent f := by
  rcases h with ⟨hfirst, habsent⟩ | ⟨-, hsecond, habsent⟩
  · exact ⟨Or.inl (firstFile_eq_iff.mp hfirst), habsent⟩
  · exact ⟨Or.inr hsecond, habsent⟩

/-- A demanded file that is absent ends the loading, unless it was ended before. -/
theorem verdict_of_demanded (h : a.Demanded around config f) (habsent : around.files.Absent f) :
    a.verdict around config ≠ .ok true := by
  rcases h with hasked | hsecond
  · intro hall
    have hmissing : a.Missing around config f := .first (firstFile_eq_iff.mpr hasked) habsent
    rw [verdict_eq_false_iff.mpr ⟨f, hmissing⟩] at hall
    cases hall
  · by_cases hfirst : a.firstVerdict around config = .ok true
    · rw [verdict_eq_false_iff.mpr ⟨f, .second hfirst hsecond habsent⟩]
      simp
    · rw [verdict_of_stopped hfirst]
      exact hfirst

/-- **What the layers of settings come to** when an app is prepared. -/
structure Layered (a : App) (around : Surroundings) (config : Option String)
    (overrides : List Assignment) (result : App × List Log.Record × Except Fault Prepared) :
    Prop where
  /-- Loading comes past all files where none is missing and none cannot be read. -/
  past : (a.layers.load around a.settings config).result = .ok true ↔
    (∀ f, ¬ a.Missing around config f) ∧ ∀ fault, ¬ a.Unreadable around config fault
  /-- Then each name has the value of the last layer that gives it one, and a name to
  which none does is not there. -/
  value : (a.layers.load around a.settings config).result = .ok true → ∀ name,
    result.1.settings.get? name =
      (overrideOf overrides name).or (a.loaded around config name)
  /-- It ends with 1 exactly if loading comes to a file that has to be there and is
  missing, -/
  missing : result.2.2 = .ok (.ends 1) ↔ ∃ f, a.Missing around config f
  /-- that is, unless a fault ends it, if a demanded file is absent. -/
  demanded : (∀ fault, result.2.2 ≠ .error fault) →
    (result.2.2 = .ok (.ends 1) ↔ ∃ f, a.Demanded around config f ∧ around.files.Absent f)
  /-- Then no later file counts, nor an override. -/
  stopped : result.2.2 = .ok (.ends 1) → ∀ name,
    result.1.settings.get? name = a.below around config name
  /-- A file that cannot be read for another reason ends it with that fault. -/
  raised : ∀ fault, a.Unreadable around config fault → result.2.2 = .error fault
  /-- An absent default file is as good as none. -/
  optional : Layers.named config = none → around.files.Absent (a.name ++ ".cfg") →
    ({ a.layers with defaultFile := none } : Layers).load around a.settings config =
      a.layers.load around a.settings config
  /-- Only an app that is ready has another destination than before. -/
  kept : result.2.2 ≠ .ok .ready → result.1.forwardTo = a.forwardTo

theorem load_optional (hasked : Layers.named config = none)
    (habsent : around.files.Absent (a.name ++ ".cfg")) :
    ({ a.layers with defaultFile := none } : Layers).load around a.settings config =
      a.layers.load around a.settings config := by
  have hfirst : a.firstFile config = (a.name ++ ".cfg", false) := by
    rw [firstFile, hasked]
  have hrest : ({ a.layers with defaultFile := none } : Layers).fileNames
      around.environment config = ((a.secondFile around).map (·, true)).toList := by
    simp only [Layers.fileNames, layers, Layers.named_append (by decide : "_SETTINGS" ≠ ""), hasked,
      secondFile]
    rfl
  rw [Layers.load, Layers.load, fileNames_eq, hfirst, hrest, Layers.loadFiles_optional _ _ habsent]

/-- **Settings come in layers.** However an app is prepared, with whatever files,
environment and overrides: past all files each name has the value of the last layer
that gives it one; and the preparation ends early exactly where a file is missing that
has to be there, with what was loaded before it. -/
theorem settings_layered (a : App) (around : Surroundings) (config : Option String) (debug : Bool)
    (hmap : (overrides.map (·.1)).Nodup) :
    a.Layered around config overrides (a.prepare around config debug overrides) := by
  have hload := (load_eq a around config).1
  have hp := preparation a around config debug overrides
  refine {
    past := ?past
    value := fun hpast => hp.value hmap (hload.symm.trans hpast)
    missing := hp.ends_one_iff.trans verdict_eq_false_iff
    demanded := ?demanded
    stopped := ?stopped
    raised := fun fault hfault => hp.raised (verdict_eq_error_iff.mpr hfault)
    optional := load_optional
    kept := hp.kept }
  case past =>
    rw [hload]
    simp only [← verdict_eq_error_iff, ← not_exists, ← verdict_eq_false_iff]
    rcases a.verdict around config with fault | _ | _ <;> simp
  case demanded =>
    intro hreturned
    rw [hp.ends_one_iff]
    constructor
    · intro hfalse
      obtain ⟨f, hmissing⟩ := verdict_eq_false_iff.mp hfalse
      exact ⟨f, hmissing.demanded⟩
    · rintro ⟨f, hdemanded, habsent⟩
      have hstopped := verdict_of_demanded hdemanded habsent
      cases hverdict : a.verdict around config with
      | error fault => exact absurd (hp.raised hverdict) (hreturned fault)
      | ok all =>
        cases all with
        | false => rfl
        | true => exact absurd hverdict hstopped
  case stopped =>
    intro hone
    refine hp.below_of_stopped ?_
    rw [hp.ends_one_iff.mp hone]
    simp

/-- A default file that is there counts over the defaults, and a port that is given over
both; a protocol of nothing is none that is given. -/
theorem standard_layered :
    let around : Surroundings :=
      { files := { entries := [(["tunnelforward.cfg"], .script
          [.assign (protocolName, .string "tcp"), .assign (listenPortName, .int 9000)])] } }
    let overrides : List Assignment := [(protocolName, .none), (listenPortName, .int 7000)]
    let settings := (standard.prepare around none false overrides).1.settings
    (overrides.map (·.1)).Nodup ∧
      (standard.layers.load around standard.settings none).result = .ok true ∧
      settings.get? protocolName = some (.string "tcp") ∧
      settings.get? listenPortName = some (.int 7000) ∧
      settings.get? listenHostName = some (.string "127.0.0.1") := by
  intro around overrides settings
  have hmap : (overrides.map (·.1)).Nodup := by decide
  have hlayered := settings_layered standard around none false hmap
  have hpast : (standard.layers.load around standard.settings none).result = .ok true := by rfl
  refine ⟨hmap, hpast, ?_, ?_, ?_⟩
  · exact (hlayered.value hpast protocolName).trans (by decide +kernel)
  · exact (hlayered.value hpast listenPortName).trans (by decide +kernel)
  · exact (hlayered.value hpast listenHostName).trans (by decide +kernel)

end App

end TunnelRelay

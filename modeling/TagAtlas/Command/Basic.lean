import TagAtlas.Tree.Disk

/-!
# Commands

What can be asked for on the command line, and how the words of a command line are read. An option
has a long name and perhaps a short one; some options take a value, in the same word or in the next
one. After two dashes all words are taken as they are.
-/

namespace TagAtlas

inductive Command where
  | analyze (root : String) (asJson : Bool)
  | overview (root : String) (withDependencies : Bool)
  | modules (root : String)
  | tags (root : String)
  | dependencies (root : String)
  | guide (root : String)
  | graph (root : String) (asJson : Bool)
  | semantics (root : String) (asJson : Bool)
  | resolve (names : List String) (root : Option String) (asJson : Bool)
  | policies (root : String) (asJson : Bool)
  deriving DecidableEq, Repr

namespace Command

inductive Takes where
  | nothing
  | path
  | oneOf (words : List String)
  deriving DecidableEq, Repr

structure Switch where
  long : String
  short : Option Char
  takes : Takes
  deriving DecidableEq, Repr

/-- Why the words of a command line name no command. -/
inductive Stop where
  | misuse
  | help
  | version
  deriving DecidableEq, Repr

structure Words where
  switches : List (String × String)
  /-- Words that belong to no option, in their order. -/
  plain : List String
  /-- What follows the first such word, when reading ends there. -/
  rest : List String
  deriving DecidableEq, Repr

/-- How the words of a command line are read. -/
structure Usage where
  switches : List Switch
  /-- Words that belong to no option: none of them but the first is read. -/
  endsAtWord : Bool
  limit : Option Nat
  hasVersion : Bool

namespace Words

def isFit : Takes → String → Bool
  | .nothing, _ => false
  | .path, value => value ≠ ""
  | .oneOf words, value => words.contains value

/-- Notes an option, unless it was given before. -/
def note (w : Words) (s : Switch) (value : String) : Except Stop Words :=
  if w.switches.any (·.1 = s.long) then .error .misuse
  else .ok { w with switches := w.switches ++ [(s.long, value)] }

def noteValue (w : Words) (s : Switch) (value : String) : Except Stop Words :=
  if isFit s.takes value then w.note s value else .error .misuse

/-- Whether a word is an option, and not the value of one. -/
def isSwitch (word : String) : Bool := Text.startsWith word "-" && word ≠ "-"

/-- An option that waits for its value in the next word, or nothing. -/
abbrev Waiting := Option Switch

def long (u : Usage) (w : Words) (text : List Char) : Except Stop (Words × Waiting) :=
  let (name, value?) := match Text.cut? (· = '=') text with
    | some (name, value) => (String.ofList name, some (String.ofList value))
    | none => (String.ofList text, none)
  if name = "help" then .error (if value?.isSome then .misuse else .help)
  else if name = "version" && u.hasVersion then
    .error (if value?.isSome then .misuse else .version)
  else match u.switches.find? (·.long = name), value? with
    | none, _ => .error .misuse
    | some s, some value => (w.noteValue s value).map (·, none)
    | some s, none =>
      if s.takes = .nothing then (w.note s "").map (·, none) else .ok (w, some s)

/-- Reads options by their short names, which stand side by side. The value of one ends them. -/
def short (u : Usage) (w : Words) : List Char → Except Stop (Words × Waiting)
  | [] => .ok (w, none)
  | c :: rest =>
    if c = 'h' then .error .help
    else if c = 'V' && u.hasVersion then .error .version
    else match u.switches.find? (·.short = some c) with
      | none => .error .misuse
      | some s =>
        if s.takes = .nothing then
          match w.note s "" with
          | .ok w => short u w rest
          | .error stop => .error stop
        else if rest.isEmpty then .ok (w, some s)
        else
          let value := if rest.head? = some '=' then rest.drop 1 else rest
          (w.noteValue s (String.ofList value)).map (·, none)

def word (u : Usage) (w : Words) (text : String) : Except Stop Words :=
  if u.limit.any (· ≤ w.plain.length) then .error .misuse
  else .ok { w with plain := w.plain ++ [text] }

def switch (u : Usage) (w : Words) (text : String) : Except Stop (Words × Waiting) :=
  match text.toList with
  | '-' :: '-' :: name => w.long u name
  | _ :: names => w.short u names
  | [] => .error .misuse

def readPlain (u : Usage) (w : Words) (texts : List String) : Except Stop Words :=
  if u.endsAtWord && !texts.isEmpty then .error .misuse else texts.foldlM (word u) w

/-- Reads the words of a command line after an option that waits for its value, or after none. -/
def read (u : Usage) (w : Words) (waiting : Waiting) : List String → Except Stop Words
  | [] => if waiting.isSome then .error .misuse else .ok w
  | text :: rest =>
    if text = "--" then if waiting.isSome then .error .misuse else w.readPlain u rest
    else if isSwitch text then
      if waiting.isSome then .error .misuse
      else match w.switch u text with
        | .ok (w, waiting) => read u w waiting rest
        | .error stop => .error stop
    else match waiting with
      | some s =>
        match w.noteValue s text with
        | .ok w => read u w none rest
        | .error stop => .error stop
      | none =>
        if u.endsAtWord then .ok { w with plain := [text], rest := rest }
        else match w.word u text with
          | .ok w => read u w none rest
          | .error stop => .error stop

def value? (w : Words) (name : String) : Option String := w.switches.lookup name

def has (w : Words) (name : String) : Bool := (w.value? name).isSome

end Words

def everywhere : List Switch :=
  [⟨"config", some 'c', .path⟩, ⟨"verbose", some 'v', .nothing⟩]

def outerUsage : Usage := ⟨everywhere, true, none, true⟩

/-- Words of a command that takes one word and some options of its own. -/
def usage (own : List Switch) (limit : Option Nat) : Usage := ⟨everywhere ++ own, false, limit, false⟩

def jsonSwitch : Switch := ⟨"json", none, .nothing⟩

def usageOf? (name : String) : Option Usage :=
  match name with
  | "analyze" | "semantics" | "policies" => some (usage [jsonSwitch] (some 1))
  | "overview" => some (usage [⟨"deps", none, .nothing⟩] (some 1))
  | "modules" | "tags" | "deps" | "guide" => some (usage [] (some 1))
  | "graph" => some (usage [⟨"format", some 'f', .oneOf ["dot", "json"]⟩] (some 1))
  | "resolve" => some (usage [⟨"root", none, .path⟩, jsonSwitch] none)
  | _ => none

def ofRoot (name root : String) (w : Words) : Except Stop Command :=
  if root = "" then .error .misuse
  else match name with
    | "analyze" => .ok (.analyze root (w.has "json"))
    | "overview" => .ok (.overview root (w.has "deps"))
    | "modules" => .ok (.modules root)
    | "tags" => .ok (.tags root)
    | "deps" => .ok (.dependencies root)
    | "guide" => .ok (.guide root)
    | "graph" => .ok (.graph root (w.value? "format" = some "json"))
    | "semantics" => .ok (.semantics root (w.has "json"))
    | _ => .ok (.policies root (w.has "json"))

def ofWords (name : String) (w : Words) : Except Stop Command :=
  match w.plain with
  | [] => .error .misuse
  | first :: others =>
    if name = "resolve" then .ok (.resolve (first :: others) (w.value? "root") (w.has "json"))
    else ofRoot name first w

/-- A command and the file of settings that is named with it. -/
structure Invocation where
  command : Command
  config : Option String
  deriving DecidableEq, Repr

def configVariable : String := "KTHULU_CONFIG"

/-- The file of settings: what the command names, what stands in front of it, what a variable
names. -/
def configOf (outer inner : Words) (fromEnv : Option String) : Except Stop (Option String) :=
  let given := (inner.value? "config").or (outer.value? "config")
  let isMissing := !(inner.has "config" && outer.has "config")
  if fromEnv = some "" && isMissing then .error .misuse else .ok (given.or fromEnv)

def helpAbout (names : List String) : Stop :=
  match names with
  | [] => .help
  | [name] => if name = "help" || (usageOf? name).isSome then .help else .misuse
  | _ => .misuse

def ofArguments (args : List String) (fromEnv : Option String) : Except Stop Invocation := do
  let outer ← Words.read outerUsage ⟨[], [], []⟩ none args
  match outer.plain with
  | [] => .error .misuse
  | name :: _ =>
    if name = "help" then .error (helpAbout outer.rest)
    else match usageOf? name with
      | none => .error .misuse
      | some u =>
        let inner ← Words.read u ⟨[], [], []⟩ none outer.rest
        let command ← ofWords name inner
        let config ← configOf outer inner fromEnv
        pure ⟨command, config⟩

end Command

end TagAtlas

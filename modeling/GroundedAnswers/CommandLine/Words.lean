namespace GroundedAnswers

/-! Reading the words of a command line into a draft `σ` by a table of options. An option that
takes values is settled only when the next option or plain word comes, or at the end. -/

inductive UsageFault where
  | unknownArgument
  | missingArgument
  | unreadableValue
  /-- An option is left without its value. -/
  | missingValue
  | repeatedOption
  /-- A value is attached to an option that takes none. -/
  | surplusValue
  | unknownCommand
  | missingCommand
  | emptyCommandLine
  | help
  | version
  deriving DecidableEq, Repr

abbrev ValueReader (σ : Type) := String → σ → Except UsageFault σ

inductive OptionAction (σ : Type) where
  | flag (set : σ → σ)
  | value (read : ValueReader σ)
  /-- Takes all the plain words behind it, and may be repeated. -/
  | values (read : ValueReader σ)
  /-- Ends the reading. -/
  | stop (fault : UsageFault)

structure OptionRule (σ : Type) where
  long : String
  short : Option Char := none
  action : OptionAction σ

def OptionRule.within (part : τ → σ) (replace : σ → τ → τ) (rule : OptionRule σ) : OptionRule τ :=
  let reader (read : ValueReader σ) : ValueReader τ := fun text whole =>
    (read text (part whole)).map fun value => replace value whole
  { long := rule.long
    short := rule.short
    action :=
      match rule.action with
      | .flag set => .flag fun whole => replace (set (part whole)) whole
      | .value read => .value (reader read)
      | .values read => .values (reader read)
      | .stop fault => .stop fault }

/-- The options of a command, what becomes of its plain word, and the commands that may follow. -/
structure CommandSyntax (σ : Type) where
  options : List (OptionRule σ)
  word : Option (String → σ → σ) := none
  commands : List String := []

structure PendingOption (σ : Type) where
  rule : OptionRule σ
  values : List String
  /-- The next plain word is a value too. -/
  takesMore : Bool

def PendingOption.taking (pending : PendingOption σ) (word : String) : PendingOption σ :=
  let takesMore :=
    match pending.rule.action with
    | .values _ => true
    | _ => false
  { pending with values := pending.values ++ [word], takesMore }

structure WordReader (σ : Type) where
  draft : σ
  pending : Option (PendingOption σ) := none
  given : List String := []
  hasWord : Bool := false

namespace WordReader

def apply (reader : WordReader σ) (rule : OptionRule σ) (repeatable : Bool) (read : ValueReader σ)
    (values : List String) : Except UsageFault (WordReader σ) :=
  if values.isEmpty then .error .missingValue
  else if !repeatable && reader.given.contains rule.long then .error .repeatedOption
  else do
    let draft ← values.foldlM (fun draft value => read value draft) reader.draft
    return { reader with draft, pending := none, given := rule.long :: reader.given }

def settled (reader : WordReader σ) : Except UsageFault (WordReader σ) :=
  match reader.pending with
  | none => .ok reader
  | some pending =>
      match pending.rule.action with
      | .value read => reader.apply pending.rule false read pending.values
      | .values read => reader.apply pending.rule true read pending.values
      | .flag _ | .stop _ => .ok { reader with pending := none }

def meet (reader : WordReader σ) (rule : OptionRule σ) (attached : Option String) :
    Except UsageFault (WordReader σ) :=
  match rule.action, attached with
  | .flag _, some _ | .stop _, some _ => .error .surplusValue
  | .flag set, none => do
      let reader ← reader.settled
      if reader.given.contains rule.long then throw .repeatedOption
      return { reader with draft := set reader.draft, given := rule.long :: reader.given }
  | .stop fault, none => do
      let _ ← reader.settled
      throw fault
  | .value read, some value => do (← reader.settled).apply rule false read [value]
  | .values read, some value => do (← reader.settled).apply rule true read [value]
  | .value _, none | .values _, none => do
      return { ← reader.settled with pending := some ⟨rule, [], true⟩ }

def meetLong (spelling : CommandSyntax σ) (reader : WordReader σ) (name : String)
    (attached : Option String) : Except UsageFault (WordReader σ) :=
  match spelling.options.find? (·.long = name) with
  | some rule => reader.meet rule attached
  | none => .error .unknownArgument

/-- Meet short options. What stands behind one that takes a value is its value. -/
def meetShort (spelling : CommandSyntax σ) (reader : WordReader σ) :
    List Char → Except UsageFault (WordReader σ)
  | [] => .ok reader
  | letter :: letters =>
      match spelling.options.find? (·.short = some letter) with
      | none => .error .unknownArgument
      | some rule =>
          match rule.action, letters with
          | .value _, '=' :: value | .values _, '=' :: value =>
              reader.meet rule (some (String.ofList value))
          | .value _, _ :: _ | .values _, _ :: _ => reader.meet rule (some (String.ofList letters))
          | _, _ => do (← reader.meet rule none).meetShort spelling letters

/-- Meet a plain word that no option waits for. `final` tells that no option may follow. -/
def meetWord (spelling : CommandSyntax σ) (reader : WordReader σ) (final : Bool) (word : String) :
    Except UsageFault (WordReader σ) :=
  match spelling.word with
  | some set =>
      if reader.hasWord then .error .unknownArgument
      else do
        let reader ← reader.settled
        return { reader with draft := set word reader.draft, hasWord := true }
  | none =>
      if spelling.commands.isEmpty || (final && spelling.commands.contains word) then
        .error .unknownArgument
      else .error .unknownCommand

def taker? (reader : WordReader σ) : Option (PendingOption σ) :=
  reader.pending.filter (·.takesMore)

/-- Read words up to a command or to the end. Gives the command, if there is one, with the words
behind it. Behind two hyphens all words are plain. -/
def read (spelling : CommandSyntax σ) (reader : WordReader σ) :
    List String → Except UsageFault (WordReader σ × Option (String × List String))
  | [] => .ok (reader, none)
  | word :: words =>
      if reader.taker?.isNone && spelling.commands.contains word then
        .ok (reader, some (word, words))
      else
        match word.toList with
        | ['-', '-'] => do
            let reader ← words.foldlM (fun reader word => reader.meetWord spelling true word) reader
            return (reader, none)
        | '-' :: '-' :: letters => do
            let (name, attached) := splitValue letters
            (← reader.meetLong spelling name attached).read spelling words
        | '-' :: letter :: letters => do
            (← reader.meetShort spelling (letter :: letters)).read spelling words
        | _ =>
            match reader.taker? with
            | some pending =>
                { reader with pending := some (pending.taking word) }.read spelling words
            | none => do (← reader.meetWord spelling false word).read spelling words
where
  splitValue (letters : List Char) : String × Option String :=
    match letters.span (· ≠ '=') with
    | (name, []) => (String.ofList name, none)
    | (name, _ :: value) => (String.ofList name, some (String.ofList value))

end WordReader

end GroundedAnswers

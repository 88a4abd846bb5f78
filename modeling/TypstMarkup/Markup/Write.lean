import TypstMarkup.Markup.Registry
import TypstMarkup.Value.Equality

/-!
Writing values. A value is mapped to a registered kind, its kind's defaults fill the context, and
the rule found for it is applied; rules write further values the same way. The depth of this
recursion is bounded by a budget that exceeds the height of the value by far, so with rules that
write parts of their values only it ends a cycle of rules that call each other and nothing else.
-/
namespace TypstMarkup

namespace Value

mutual

/-- A bound on the nesting of values met while a value is written. -/
def height : Value → Nat
  | .fraction _ | .range _ => 2
  | .list items | .tuple items | .set items => heightAll items + 1
  | .dict entries => heightEntries entries + 1
  | .matrix rows => heightRows rows + 1
  | .array _ _ items _ => height items + 3
  | .object _ core payload => heightOption core + heightOption payload + 1
  | _ => 1

def heightAll : List Value → Nat
  | [] => 0
  | v :: rest => max (height v) (heightAll rest)

def heightEntries : List (Value × Value) → Nat
  | [] => 0
  | (key, v) :: rest => max (max (height key) (height v)) (heightEntries rest)

def heightRows : List (List Value) → Nat
  | [] => 0
  | row :: rest => max (heightAll row) (heightRows rest)

def heightOption : Option Value → Nat
  | none => 0
  | some v => height v

end

end Value

namespace Markup

/-- Maps an array without a rule of its own to the list or the matrix it stands for. -/
def asRegistered (r : Registry) (v : Value) : Except Fault Value :=
  if (r.resolve v.kind).isSome then .ok v
  else
    match v.core with
    | .array _ dimensions items true =>
      if dimensions.same (.int 1) then .ok items
      else if dimensions.same (.int 2) then items.matrixRows?.map .matrix
      else .error (.unsupportedKind v.kind)
    | _ => .error (.unsupportedKind v.kind)

def writeAccessor (which : CoreSetting) (c : Context) : Emission :=
  match which with
  | .mode => .attempt c.mode fun mode => .text mode.name.toList
  | .inline => .attempt c.inline fun b => .text (Value.bool b).shown.toList
  | .indent => .attemptText c.indent
  | .depth => .attempt c.depth fun n => .attemptText (integerText n)

mutual

/-- Writes a value within a budget of nested calls. -/
def writeWithin (r : Registry) : Nat → Writer
  | 0, _, _ => .fail .recursionLimit
  | budget + 1, v, c =>
    .attempt (asRegistered r v) fun v =>
      match r.resolve v.kind with
      | some rule => applyWithin r budget rule v (c.fill (r.kindDefaults v))
      | none => .fail (.unsupportedKind v.kind)

def applyWithin (r : Registry) : Nat → Rule → Writer
  | 0, _, _, _ => .fail .recursionLimit
  | budget + 1, rule, v, c =>
    match rule with
    | .builtin rule => rule.apply (writeWithin r budget) v c
    | .composed _ parts => .concat (parts.map fun part =>
      match part with
      | .text s => .text s.toList
      | .setting key =>
        match c.get? key with
        | some found => .attempt found.shown? fun text => .text text.toList
        | none => .fail (.absentKey (Text.quotedString key))
      | .optional key => .attempt (c.found key).shown? fun text => .text text.toList
      | .accessor which => writeAccessor which c
      | .parameter key => .attemptText (c.parameter key)
      | .payload overrides =>
        match v with
        | .object _ _ (some payload) => writeWithin r budget payload (c.insertAll overrides)
        | _ => .fail (lacks v "payload")
      | .plain => .attempt v.plainText? fun text => .text text.toList
      | .procedure body => (body v c.get?).run (writeWithin r budget) c
      | .delegate kind =>
        match r.resolve kind with
        | some rule => applyWithin r budget rule v c
        | none => .fail (.failed .typeError "'NoneType' object is not callable")
      | .fail message => .fail (.failed .valueError message))

end

/-- The budget of nested calls for a value. It depends on what the value stands for, as finding that
takes no call. -/
def budget (r : Registry) (v : Value) : Nat :=
  match asRegistered r v with
  | .ok shown => 2 * (shown.height + 1000)
  | .error _ => 1

def write (r : Registry) (v : Value) (c : Context) : Emission :=
  writeWithin r (budget r v) v c

/-- The context a value is formatted under: the global defaults, changed by the defaults of its kind
and then by the settings given. -/
def effectiveContext (r : Registry) (v : Value) (settings : Context) : Context :=
  (Context.default.update (r.kindDefaults v)).update settings

/-- The text of a value under settings that complete the defaults, or the failure to write it. -/
def renderText (r : Registry) (v : Value) (settings : Context) : Except Fault (List Char) :=
  (write r v (effectiveContext r v settings)).toExcept

def format (r : Registry) (v : Value) (settings : Context) : Except Fault Value :=
  (renderText r v settings).map fun text => .markup (String.ofList text)

/-- The constructor of finished source: verbatim text is taken as it is, and finished source is
returned unless there are settings. -/
def construct (r : Registry) (v : Value) (settings : Context) : Except Fault Value :=
  match v.core with
  | .verbatim text => .ok (.markup text)
  | .markup text =>
    if settings.entries.isEmpty then .ok (.markup text) else format r v settings
  | _ => format r v settings

/-- Appends a formatted value to what a sink holds. A failure leaves the sink as it was. -/
def writeTo (r : Registry) (held : List Char) (v : Value) (settings : Context) : Emission :=
  match renderText r v settings with
  | .ok text => ⟨held ++ text, none⟩
  | .error f => ⟨held, some f⟩

end Markup

end TypstMarkup

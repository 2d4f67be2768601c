import TypeExpr.CommandLine.Usage
import TypeExpr.Text.Numeral

/-!
# `TypeExpr.CommandLine.Arguments`: reading the arguments of a call

Reading takes two passes. The first sorts each argument by itself: an operand, an option with or
without an attached value, or something that looks like an option and is none. After a `--` all is
operands. The second goes through them in order: the first unbroken run of operands is the list of
expressions, an option acts when it is met, and whatever fits nowhere is kept for a complaint at the
end. The cap on issues is a whole number, or is taken off by a `--` attached to its option.
-/

namespace TypeExpr.CommandLine

/-- What a call asks for. -/
structure Options where
  expressions : List Text
  doc : Bool
  check : Nat
  tree : Bool
  maxIssues : Option Int
deriving DecidableEq, Repr

/-- Why reading the arguments ends before the work begins. -/
inductive Halt where
  /-- Help is asked for. -/
  | help
  /-- The call is not understood. -/
  | misuse (e : UsageError)
deriving DecidableEq, Repr

/-! ### Sorting arguments -/

/-- An argument by itself. -/
inductive Argument where
  /-- Something to work on, or the value of an option. -/
  | operand (t : Text)
  /-- The first `--`. -/
  | separator
  /-- An option in short form, with the text attached to it. -/
  | short (f : Flag) (attached : Option Text)
  /-- An option in long form, with the text attached to it. -/
  | long (f : Flag) (attached : Option Text)
  /-- What looks like an option and is none. -/
  | unknown (t : Text)
deriving DecidableEq, Repr

/-- A text up to the first equals sign, and what follows that sign, if there is one. -/
def splitValue (t : Text) : Text × Option Text :=
  match t.span (· != '=') with
  | (name, _ :: value) => (name, some value)
  | (name, []) => (name, none)

/-- Whether what follows a minus sign makes it a negative number: digits, or digits or none with a
point and digits after it. A line feed at the end is passed over. -/
def isNumberBody (t : Text) : Bool :=
  let t := if t.getLast? = some '\n' then t.dropLast else t
  match t.span isDecimal with
  | (whole, []) => !whole.isEmpty
  | (_, '.' :: fraction) => !fraction.isEmpty && fraction.all isDecimal
  | _ => false

/-- An argument that begins with a minus sign and fits no option: a negative number or a text with a
space is an operand all the same. -/
def sortOther (body : Text) : Argument :=
  if isNumberBody body || body.contains ' ' then .operand ('-' :: body) else .unknown ('-' :: body)

/-- What kind of argument a text is. -/
def sortArgument : Text → Except UsageError Argument
  | '-' :: '-' :: rest =>
    let (name, value) := splitValue ('-' :: '-' :: rest)
    match Flag.abbreviatedBy name with
    | [f] => .ok (.long f value)
    | [] => .ok (sortOther ('-' :: rest))
    | fs => .error (.ambiguous ('-' :: '-' :: rest) fs)
  | ['-'] => .ok (.operand ['-'])
  | '-' :: c :: rest =>
    match Flag.ofLetter? c, rest with
    | some f, [] => .ok (.short f none)
    | some f, '=' :: value => .ok (.short f (some value))
    | some f, attached => .ok (.short f (some attached))
    | none, _ => .ok (sortOther (c :: rest))
  | t => .ok (.operand t)

/-- What kinds of arguments texts are. After the first `--` all are operands. -/
def sortArguments : List Text → Except UsageError (List Argument)
  | [] => .ok []
  | t :: rest =>
    if t = ['-', '-'] then .ok (.separator :: rest.map .operand)
    else do
      let a ← sortArgument t
      return a :: (← sortArguments rest)

/-! ### Taking options apart -/

/-- An option, and its value if that is attached. -/
structure Deed where
  flag : Flag
  value : Option Text
deriving DecidableEq, Repr

/-- The options in a short form with text attached. Options without a value may share one minus
sign, so the attached text names further options as long as they have none. -/
def unbundle (f : Flag) (attached : Text) : Except UsageError (List Deed) :=
  if f.takesValue then .ok [⟨f, some attached⟩]
  else
    match attached with
    | [] => .error (.ignoredValue f [])
    | c :: rest =>
      match Flag.ofLetter? c, rest with
      | none, _ => .error (.ignoredValue f (c :: rest))
      | some g, [] => .ok [⟨f, none⟩, ⟨g, none⟩]
      | some g, d :: rest => (unbundle g (d :: rest)).map (⟨f, none⟩ :: ·)

/-- The options in an argument. -/
def deeds : Argument → Except UsageError (List Deed)
  | .short f none | .long f none => .ok [⟨f, none⟩]
  | .short f (some attached) => unbundle f attached
  | .long f (some attached) =>
    if f.takesValue then .ok [⟨f, some attached⟩] else .error (.ignoredValue f attached)
  | _ => .ok []

/-! ### Taking arguments in -/

/-- How far the run of expressions has come. -/
inductive Intake where
  | awaited
  | taking
  | closed
deriving DecidableEq, Repr

/-- What has been made of the arguments so far. -/
structure Reading where
  options : Options
  intake : Intake
  extras : List Text
deriving DecidableEq, Repr

namespace Reading

/-- Before any argument. -/
def start : Reading := ⟨⟨[], false, 0, false, some 10⟩, .awaited, []⟩

/-- An operand belongs to the expressions until their run is closed. -/
def operand (r : Reading) (t : Text) : Reading :=
  match r.intake with
  | .closed => { r with extras := r.extras ++ [t] }
  | _ => { r with intake := .taking, options.expressions := r.options.expressions ++ [t] }

/-- The separator vanishes in the run of expressions, and fits nowhere after it. -/
def separator (r : Reading) : Reading :=
  match r.intake with
  | .closed => { r with extras := r.extras ++ [['-', '-']] }
  | _ => r

/-- An argument that is no option after all fits nowhere. -/
def unknown (r : Reading) (t : Text) : Reading := { r with extras := r.extras ++ [t] }

/-- An option closes the run of expressions if it has begun. -/
def close (r : Reading) : Reading :=
  match r.intake with
  | .taking => { r with intake := .closed }
  | _ => r

/-- The cap on issues that a text stands for: two minus signs stand for none. -/
def cap (t : Text) : Except UsageError (Option Int) :=
  if t = ['-', '-'] then .ok none
  else
    match Text.readInt? t with
    | some n => .ok (some n)
    | none => .error (.invalidNumber .maxIssues t)

/-- What one option does. -/
def act (r : Reading) (d : Deed) : Except Halt Reading :=
  match d.flag with
  | .help => .error .help
  | .doc => .ok { r with options.doc := true }
  | .check => .ok { r with options.check := r.options.check + 1 }
  | .tree => .ok { r with options.tree := true }
  | .maxIssues =>
    match d.value with
    | none => .error (.misuse (.missingValue .maxIssues))
    | some t =>
      match cap t with
      | .ok n => .ok { r with options.maxIssues := n }
      | .error e => .error (.misuse e)

/-- The options of an argument with its value filled in from the operand that follows, if the last
of them wants one, and whether that operand is used up. -/
def withValue (ds : List Deed) (next : Option Argument) : Except UsageError (List Deed × Bool) :=
  match ds.getLast? with
  | some ⟨f, none⟩ =>
    if f.takesValue then
      match next with
      | some (.operand t) => .ok (ds.dropLast ++ [⟨f, some t⟩], true)
      | _ => .error (.missingValue f)
    else .ok (ds, false)
  | _ => .ok (ds, false)

/-- Takes arguments in, one after the other. -/
def takeAll (r : Reading) : List Argument → Except Halt Reading
  | [] => .ok r
  | .operand t :: rest => (r.operand t).takeAll rest
  | .separator :: rest => r.separator.takeAll rest
  | .unknown t :: rest => (r.close.unknown t).takeAll rest
  | [option] => do
    let ds ← (deeds option).mapError .misuse
    let (ds, _) ← (withValue ds none).mapError .misuse
    ds.foldlM act r.close
  | option :: next :: rest => do
    let ds ← (deeds option).mapError .misuse
    let (ds, used) ← (withValue ds (some next)).mapError .misuse
    let r ← ds.foldlM act r.close
    if used then r.takeAll rest else r.takeAll (next :: rest)

/-- What a call asks for, if there is something to work on and nothing left over. -/
def finish (r : Reading) : Except Halt Options :=
  if r.options.expressions.isEmpty then .error (.misuse .missingExpressions)
  else if r.extras.isEmpty then .ok r.options
  else .error (.misuse (.unrecognized r.extras))

end Reading

/-- Reads the arguments of a call. -/
def Options.ofArguments (ts : List Text) : Except Halt Options := do
  let arguments ← (sortArguments ts).mapError .misuse
  (← Reading.start.takeAll arguments).finish

end TypeExpr.CommandLine

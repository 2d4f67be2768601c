import TypeExpr.Text.Basic

/-!
# `TypeExpr.Report.Outburst`: what a report exclaims

Before it complains, a report lets off an exclamation put together from three lists. Which words it
takes is left to a sequence of choices, each used once.
-/

namespace TypeExpr

/-- Numbers that choose among options, each taken modulo the number of options. -/
abbrev Choices := Nat → Int

namespace Choices

/-- The option that the choice at a position falls on. -/
def pick (choices : Choices) (position : Nat) (options : List Text) : Text :=
  options.getD (choices position % options.length).toNat []

end Choices

namespace Outburst

/-- How it begins. -/
def particles : List Text :=
  ["Oh, ".toList, "Well, ".toList, "Aw, ".toList, [], []]

/-- What it calls out. -/
def oaths : List Text :=
  ["Ack".toList, "ARGH".toList, "Blargh".toList, "Confound it".toList, "Crud".toList,
    "Curses".toList, "Crikey".toList, "Drat".toList, "Fiddlesticks".toList, "Good Grief".toList,
    "Great Scott".toList, "Heavens".toList, "Jeepers".toList, "Nuts".toList, "Rats".toList]

/-- How it ends. -/
def resignations : List Text :=
  ["I am undone.".toList, "I cannot continue.".toList,
    "I have no idea what the right answer is.".toList, "I need to ask for help.".toList]

/-- How many choices one exclamation takes. -/
def draws : Nat := 3

/-- The exclamation made with the choices from a position on. -/
def text (choices : Choices) (position : Nat) : Text :=
  choices.pick position particles ++ choices.pick (position + 1) oaths ++ "! ".toList ++
    choices.pick (position + 2) resignations

end Outburst
end TypeExpr

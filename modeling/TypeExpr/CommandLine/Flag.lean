import TypeExpr.Text.Basic

/-!
# `TypeExpr.CommandLine.Flag`: the options of the command line

Five options, each with a short form of one letter and a long form, and whether a value follows.
-/

namespace TypeExpr.CommandLine

/-- An option of the command line. -/
inductive Flag where
  | help
  | doc
  | check
  | tree
  | maxIssues
deriving DecidableEq, Repr

namespace Flag

/-- All options, in the order in which they are explained. -/
def all : List Flag := [help, doc, check, tree, maxIssues]

/-- The letter of the short form. -/
def letter : Flag → Char
  | help => 'h'
  | doc => 'd'
  | check => 'c'
  | tree => 't'
  | maxIssues => 'm'

/-- The long form. -/
def long : Flag → Text
  | help => "--help".toList
  | doc => "--doc".toList
  | check => "--check".toList
  | tree => "--tree".toList
  | maxIssues => "--max-issues".toList

/-- Whether the option has a value. -/
def takesValue : Flag → Bool
  | maxIssues => true
  | _ => false

/-- How messages name the option. -/
def display (f : Flag) : Text := '-' :: f.letter :: '/' :: f.long

/-- The option of a letter. -/
def ofLetter? (c : Char) : Option Flag := all.find? (·.letter == c)

/-- The options whose long form begins with a text. -/
def abbreviatedBy (t : Text) : List Flag := all.filter fun f => t.isPrefixOf f.long

end Flag
end TypeExpr.CommandLine

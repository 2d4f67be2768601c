import TypeExpr.Proofs.Text.Parts
import TypeExpr.Report.Basic

/-!
# `TypeExpr.Proofs.Report.Complaint`: what a complaint reads

A report that complains prints its issues under a rule and an exclamation. Each of them is set off
by a rule of its own, and told in full: what introduces it, an empty line, its pictures, and its
closing remarks (`complaintLines`). Nothing else is printed, and no issue is left out
(`flatMap_complaintLines`).
-/

namespace TypeExpr

/-- What is told of an issue, line by line. A picture counts as one line, although it takes two. -/
def Issue.lines (i : Issue) : List Text :=
  "  -  -  -  -  -  -  -  -  -  -  -  -  -  -  -  -  -  -  -  -".toList ::
    i.intro :: [] :: i.annotations.map Annotation.illustrate ++ i.footer

/-- A complaint about issues, line by line. -/
def complaintLines (exclamation : Text) (is : List Issue) : List Text :=
  "************************************************************".toList ::
    exclamation :: is.flatMap Issue.lines

namespace Report

theorem entry_eq (i : Issue) : entry i = i.lines.flatMap (· ++ ['\n']) := by
  have hrule : separator =
      "  -  -  -  -  -  -  -  -  -  -  -  -  -  -  -  -  -  -  -  -".toList := by
    decide
  have htext : line i.text =
      (i.intro :: [] :: i.annotations.map Annotation.illustrate ++ i.footer).flatMap
        (· ++ ['\n']) :=
    Text.intercalate_append_sep '\n' (by simp)
  rw [entry, hrule, htext]
  rfl

/-- **A complaint in full.** What a report prints of its issues are the lines of the complaint about
them. -/
theorem flatMap_complaintLines (exclamation : Text) (is : List Issue) :
    (complaintLines exclamation is).flatMap (· ++ ['\n']) =
      line banner ++ line exclamation ++ is.flatMap entry := by
  have hrule : banner =
      "************************************************************".toList := by
    decide
  have hissues : (is.flatMap Issue.lines).flatMap (· ++ ['\n']) = is.flatMap entry := by
    simp only [List.flatMap_assoc, ← entry_eq]
  rw [complaintLines, List.flatMap_cons, List.flatMap_cons, hissues, hrule, List.append_assoc]
  rfl

end Report
end TypeExpr

import Reckoner.Formula
import Reckoner.Proofs.Expression.Operands
import Reckoner.Proofs.Expression.Reduction
import Reckoner.Proofs.Expression.Substitution

/-!
# What has a value is valid

A text that reduces to a number has a reading, so it is balanced and its symbols are apart. If it is
the result of a substitution then the text before the substitution has these properties, too. The
check for validity therefore turns down no expression that could be evaluated.
-/

namespace Reckoner

namespace Tree

variable {t : Tree} {s : Text}

/-- What can be read as a tree is balanced. -/
theorem IsReading.balanced (ht : t.IsReading s) :
  Balanced s
  := by
  rw [← ht.spelling_eq]
  apply ht.grammatical.balanced

/-- What can be read as a tree has no two operators next to each other. -/
theorem IsReading.symbolsApart (ht : t.IsReading s) :
  SymbolsApart s
  := by
  rw [← ht.spelling_eq]
  apply ht.grammatical.symbolsApart

end Tree

/-- An expression is valid if it has a value for some table with names, in either mode and whatever
the values in the table are. -/
theorem isValid_of_evaluate {mode : Mode} {b : Bindings} {s : Text} {v : Number}
    (hb : b.IsWellNamed)
    (h : ({ Formula.ofText mode s with bindings := b } : Formula).evaluate = .ok v) :
  isValid s
  := by
  have hreduce : reduce (substitute mode b s.strip) = .ok v := h
  obtain ⟨t, ht, -⟩ := Tree.exists_isReading_of_reduce hreduce
  rw [isValid_iff]
  constructor
  · apply balanced_of_substitute hb ht.balanced
  · apply symbolsApart_of_substitute hb ht.symbolsApart

/-- The expression `( a)+1` is evaluated with a value of `a`, and it is therefore valid. -/
theorem isValid_of_evaluate_sum :
  isValid ['(', ' ', 'a', ')', '+', '1']
  := by
  let b := Bindings.ofList [(['a'], 2)]
  have hb : b.IsWellNamed := by
    intro e he
    rw [List.mem_singleton.mp he]
    decide +kernel
  have h : ({ Formula.ofText .textual ['(', ' ', 'a', ')', '+', '1'] with
      bindings := b } : Formula).evaluate = .ok 3 := by
    decide +kernel
  apply isValid_of_evaluate hb h

end Reckoner

import Reckoner.Proofs.CommandLine.Arguments
import Reckoner.Proofs.Number.Display
import Reckoner.Proofs.Text.Trim
import Reckoner.Session.Dialogue

/-!
# Entering a number again

A number is written without blank characters, so that blank ones around it do not count when it is
entered again, and it is read as it was. This holds for both ways to write a number, wherever one
can be entered: in an assignment, as a value that a session asks for and in the arguments of the
program.
-/

namespace Reckoner

variable {v : Number} {t : Text} {name w₁ w₂ w₃ w₄ : Text}

/-- What is written for a number is trimmed. -/
theorem isTrimmed_of_written (ht : t = v.display ∨ t = v.spell) :
  t.IsTrimmed
  := by
  apply Text.isTrimmed_of_isBlank
  intro c hc
  rcases ht with rfl | rfl
  · apply Number.isBlank_of_mem_display hc
  · apply Number.isBlank_of_mem_spell hc

/-- A written number between blank texts is read as this number. -/
theorem ofText?_trim_of_written (ht : t = v.display ∨ t = v.spell) (h₃ : w₃.IsBlank)
    (h₄ : w₄.IsBlank) :
  Number.ofText? (w₃ ++ t ++ w₄).trim = some v
  := by
  rw [(isTrimmed_of_written ht).trim_eq h₃ h₄]
  rcases ht with rfl | rfl
  · apply Number.ofText?_display
  · apply Number.ofText?_spell

/-- A name between blank texts has no equals sign in it if the name has none. -/
theorem not_mem_of_isBlank (hmark : '=' ∉ name) (h₁ : w₁.IsBlank) (h₂ : w₂.IsBlank) :
  '=' ∉ w₁ ++ name ++ w₂
  := by
  have hblank : ∀ w : Text, w.IsBlank → '=' ∉ w := by
    intro w hw hmem
    cases hw '=' hmem
  rw [List.mem_append, List.mem_append, not_or, not_or]
  exact ⟨⟨hblank w₁ h₁, hmark⟩, hblank w₂ h₂⟩

/-- However a number is written, an assignment of the text to a name gives the name this number, bit
for bit. Blank characters around the name and around the text do not count. It is the same number
when the text is entered as a value that a session asks for, and when the assignment is among the
arguments of the program. -/
theorem Assignment.ofText?_written (hne : name ≠ []) (hmark : '=' ∉ name) (hname : name.IsTrimmed)
    (h₁ : w₁.IsBlank) (h₂ : w₂.IsBlank) (h₃ : w₃.IsBlank) (h₄ : w₄.IsBlank)
    (ht : t = v.display ∨ t = v.spell) :
  Assignment.ofText? (w₁ ++ name ++ w₂ ++ '=' :: (w₃ ++ t ++ w₄)) = .ok ⟨name, v⟩
    ∧ (∀ o f asked rest,
        (Phase.value f asked rest).reply o (w₃ ++ t ++ w₄) = ask (f.assign asked v) rest)
    ∧ ∀ (s : Settings) args rest,
        Parameter.assignment.IsGivenBy (w₁ ++ name ++ w₂ ++ '=' :: (w₃ ++ t ++ w₄)) args →
        s.readArguments none (args ++ rest)
          = ({ s with assignments := s.assignments ++ [⟨name, v⟩] } : Settings).readArguments none
              rest
  := by
  have hvalue := ofText?_trim_of_written ht h₃ h₄
  have hassignment : Assignment.ofText? (w₁ ++ name ++ w₂ ++ '=' :: (w₃ ++ t ++ w₄))
      = .ok ⟨name, v⟩ := by
    have htrim := hname.trim_eq h₁ h₂
    rw [ofText?_append (not_mem_of_isBlank hmark h₁ h₂) _ hvalue, htrim]
    rw [htrim]
    apply hne
  refine ⟨hassignment, ?_, ?_⟩
  · intro o f asked rest
    rw [Phase.reply, Phase.replyToEntry, hvalue]
  · intro s args rest hgiven
    rw [Settings.readArguments_of_isGivenBy hgiven, Settings.give, hassignment]
    rfl

/-- The smallest number is shown in scientific notation, the sign of a zero is kept, and what is no
number is so again. -/
theorem Assignment.ofText?_written_smallest :
  Assignment.ofText? "\t x y\u3000=  5e-324\n".toList = .ok ⟨"x y".toList, 5e-324⟩
    ∧ (∀ o f asked rest,
        (Phase.value f asked rest).reply o " -0.0\n".toList = ask (f.assign asked (-0.0)) rest)
    ∧ Settings.readArguments {} none ["-s".toList, "x=NaN".toList]
      = .ok { assignments := [⟨"x".toList, .ofPattern false Number.undefined⟩] }
  := by
  have hname : Text.IsTrimmed "x".toList := by decide +kernel
  have hnil : Text.IsBlank [] := by decide
  refine ⟨?_, ?_, ?_⟩
  · have htext : "\t x y\u3000=  5e-324\n".toList
        = "\t ".toList ++ "x y".toList ++ "\u3000".toList
          ++ '=' :: ("  ".toList ++ (5e-324 : Number).display ++ "\n".toList) := by decide +kernel
    rw [htext]
    apply (Assignment.ofText?_written (by decide) (by decide) (by decide) (by decide) (by decide)
      (by decide) (by decide) (.inl rfl)).1
  · have htext : " -0.0\n".toList = " ".toList ++ (-0.0 : Number).display ++ "\n".toList := by
      decide +kernel
    rw [htext]
    apply (Assignment.ofText?_written (by decide) (by decide) hname hnil hnil (by decide)
      (by decide) (.inl rfl)).2.1
  · have htext : "x=NaN".toList
        = [] ++ "x".toList ++ []
          ++ '=' :: ([] ++ (Number.ofPattern false Number.undefined).spell ++ []) := by
      decide +kernel
    rw [htext]
    apply (Assignment.ofText?_written (by decide) (by decide) hname hnil hnil hnil hnil
      (.inr rfl)).2.2 {} _ [] (.shortApart (c := 's') rfl (by decide +kernel))

end Reckoner

/-!
# Items without repetitions

Mnemonics, switches and labels are kept in the order in which they first occur, each once. An item
that is added at the end is kept if it is new, and an item that occurs once is kept where it is.
-/

namespace PseudoAsm

theorem eraseDups_append_singleton {α : Type} [BEq α] [LawfulBEq α] (items : List α) (item : α) :
    (items ++ [item]).eraseDups =
      if item ∈ items then items.eraseDups else items.eraseDups ++ [item] := by
  rw [List.eraseDups_append, List.cons_removeAll]
  by_cases known : item ∈ items
  · simp [known, List.removeAll]
  · simp [known, List.removeAll, List.eraseDups_cons]

/-- An item that occurs once in a list is kept where it is when repetitions are dropped. -/
theorem exists_eraseDups_append_cons {α : Type} [DecidableEq α] {item : α} {before after : List α}
    (absent : item ∉ before ++ after) :
    ∃ front back, (before ++ after).eraseDups = front ++ back ∧
      (before ++ item :: after).eraseDups = front ++ item :: back ∧
      item ∉ front ∧ item ∉ back := by
  rw [List.mem_append, not_or] at absent
  rcases absent with ⟨notBefore, notAfter⟩
  have others : (after.removeAll before).filter (!· == item) = after.removeAll before := by
    apply List.filter_eq_self.2
    intro other member
    have notItem : other ≠ item := by
      rintro rfl
      exact notAfter (List.mem_filter.1 member).1
    simp [notItem]
  refine ⟨before.eraseDups, (after.removeAll before).eraseDups, List.eraseDups_append, ?_, ?_, ?_⟩
  · rw [List.eraseDups_append, List.cons_removeAll, if_pos (by simpa using notBefore),
      List.eraseDups_cons, others]
  · simpa using notBefore
  · rw [List.mem_eraseDups]
    intro member
    exact notAfter (List.mem_filter.1 member).1

end PseudoAsm

import Mathlib.Data.List.Basic

/-! # Logs of lines

A file of separated records is read one record at a time; a record that does not parse is skipped. -/

namespace Lines

universe u v

variable {β : Type u} {α : Type v} {parse : List β → Option α}

/-- The record on a line, when there is one and it parses. -/
def record (parse : List β → Option α) (line : List β) : Option α :=
  if line.isEmpty then none else parse line

def records [DecidableEq β] (sep : β) (parse : List β → Option α) (bytes : List β) : List α :=
  (bytes.splitOn sep).filterMap (record parse)

/-- The bytes are whole lines, and hold these records. -/
def Whole [DecidableEq β] (sep : β) (parse : List β → Option α) (bytes : List β) (rs : List α) :
    Prop :=
  ∀ rest, records sep parse (bytes ++ rest) = rs ++ records sep parse rest

@[simp] theorem record_nil : record parse [] = none := rfl

theorem record_of_ne_nil {line : List β} (h : line ≠ []) : record parse line = parse line := by
  cases line with
  | nil => exact absurd rfl h
  | cons b line => rfl

variable [DecidableEq β] {sep : β}

theorem records_append_sep (xs ys : List β) :
    records sep parse (xs ++ sep :: ys) = records sep parse xs ++ records sep parse ys := by
  unfold records
  rw [List.splitOn_append_cons_self, List.filterMap_append]

theorem records_of_notMem {line : List β} (h : sep ∉ line) :
    records sep parse line = (record parse line).toList := by
  unfold records
  rw [List.splitOn_eq_singleton h]
  cases hr : record parse line <;> simp [hr]

@[simp] theorem records_nil : records sep parse [] = [] := records_of_notMem List.not_mem_nil

theorem whole_nil : Whole sep parse [] [] := fun _ => rfl

theorem Whole.records {bytes : List β} {rs : List α} (h : Whole sep parse bytes rs) :
    records sep parse bytes = rs := by
  have hnil := h []
  rwa [List.append_nil, records_nil, List.append_nil] at hnil

theorem Whole.open_line {bytes line : List β} {rs : List α} (h : Whole sep parse bytes rs)
    (hline : sep ∉ line) : Lines.records sep parse (bytes ++ line) = rs ++ (record parse line).toList := by
  rw [h line, records_of_notMem hline]

theorem Whole.close_line {bytes line : List β} {rs : List α} (h : Whole sep parse bytes rs)
    (hline : sep ∉ line) :
    Whole sep parse (bytes ++ (line ++ [sep])) (rs ++ (record parse line).toList) := by
  intro rest
  have hrest : bytes ++ (line ++ [sep]) ++ rest = bytes ++ (line ++ sep :: rest) := by simp
  rw [hrest, h, records_append_sep, records_of_notMem hline, List.append_assoc]

end Lines

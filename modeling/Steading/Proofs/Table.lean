import Steading.CommandLine.Report

/-!
# Columns of the table

A line of the table is a list of cells with a space between any two, and a cell is a text that is
padded to a width (`CommandLine.setOut_line`). The headings keep to the widths that a row is meant
to have; a row pads neither the tenant nor the state. So the tenant stands below its heading, and
the fields behind the state all stand too far to the left, by what the tenant and the state leave
of their widths (`CommandLine.row_drifts`).
-/

namespace Steading

namespace CommandLine

/-- From a column on, a line consists of these texts, each from its own column on, and of nothing
but spaces before, between and behind them. -/
def SetOut (column : Nat) : List (String × Nat) → List Char → Prop
  | [], line => ∀ c ∈ line, c = ' '
  | (text, start) :: texts, line => ∃ gap rest, start = column + gap ∧
      line = List.replicate gap ' ' ++ text.toList ++ rest ∧
      SetOut (start + text.length) texts rest

/-- A text with the width it is padded to. -/
structure Cell where
  text : String
  width : Nat

def Cell.padded (c : Cell) : String :=
  Text.padRight c.width c.text

def line (cells : List Cell) : String :=
  " ".intercalate (cells.map Cell.padded)

/-- Where the cells of a line start. -/
def starts (column : Nat) : List Cell → List Nat
  | [] => []
  | c :: cells => column :: starts (column + max c.width c.text.length + 1) cells

theorem toList_padded (c : Cell) :
    c.padded.toList = c.text.toList ++ List.replicate (c.width - c.text.length) ' ' := by
  simp [Cell.padded, Text.padRight]

/-- Padding and the space behind a cell come to the gap before the next one. -/
theorem setOut_line : ∀ (cells : List Cell) (column gap : Nat),
    SetOut column ((cells.map Cell.text).zip (starts (column + gap) cells))
      (List.replicate gap ' ' ++ (line cells).toList)
  | [], column, gap => by
    simp [SetOut, line]
  | [c], column, gap => by
    refine ⟨gap, List.replicate (c.width - c.text.length) ' ', rfl, ?_, ?_⟩
    · simp [line, toList_padded]
    · exact fun x hx => (List.mem_replicate.1 hx).2
  | c :: c' :: cells, column, gap => by
    refine ⟨gap, List.replicate (c.width - c.text.length + 1) ' ' ++ (line (c' :: cells)).toList,
      rfl, ?_, ?_⟩
    · simp [line, toList_padded, String.intercalate_cons_cons, List.replicate_succ']
    · have hnext : column + gap + max c.width c.text.length + 1 =
          column + gap + c.text.length + (c.width - c.text.length + 1) := by omega
      have hrest := setOut_line (c' :: cells) (column + gap + c.text.length)
        (c.width - c.text.length + 1)
      rwa [← hnext] at hrest

/-- Texts that are not blank can be set out in one line in one way only. -/
theorem SetOut.start_eq {text : String} {column a b : Nat} {texts texts' : List (String × Nat)}
    {chars : List Char} (htext : text.toList.any (· != ' ') = true)
    (h : SetOut column ((text, a) :: texts) chars)
    (h' : SetOut column ((text, b) :: texts') chars) :
    a = b ∧ ∃ rest, SetOut (a + text.length) texts rest ∧ SetOut (a + text.length) texts' rest := by
  obtain ⟨gap, rest, rfl, rfl, hrest⟩ := h
  obtain ⟨gap', rest', rfl, heq, hrest'⟩ := h'
  -- The first character that is not a space stands at one place only.
  have hfirst : ∀ (n : Nat) (more : List Char),
      (List.replicate n ' ' ++ text.toList ++ more).findIdx (· != ' ') =
        n + text.toList.findIdx (· != ' ') := by
    intro n more
    have hspaces : (List.replicate n ' ').findIdx (· != ' ') = n := by
      rw [List.findIdx_eq_length_of_false] <;> simp
    have hword : text.toList.findIdx (· != ' ') < text.toList.length :=
      List.findIdx_lt_length_of_exists (List.any_eq_true.1 htext)
    rw [List.append_assoc, List.findIdx_append, hspaces, List.length_replicate,
      if_neg (Nat.lt_irrefl n), List.findIdx_append, if_pos hword, Nat.add_comm]
  have hgap : gap = gap' := by
    have hplace := congrArg (List.findIdx (· != ' ')) heq
    rw [hfirst, hfirst] at hplace
    omega
  subst hgap
  obtain rfl : rest = rest' := List.append_cancel_left heq
  exact ⟨rfl, rest, hrest, hrest'⟩

/-! ## Rows and headings -/

def headings : List String :=
  ["TENANT", "STATE", "ADDRESS", "CPU", "MEM(Gi)", "WORLD"]

def address (v : ServerView) : String :=
  v.server.ip ++ ":" ++ toString v.server.port

def fields (v : ServerView) : List String :=
  [v.server.tenant.text, v.server.state.name, address v, toString v.server.cpu,
    toString v.server.memory, v.world.world]

/-- The widths that the headings keep to. -/
def headingWidths : List Nat :=
  [15, 12, 20, 4, 8, 0]

/-- The widths that the fields of a row are padded to. -/
def rowWidths : List Nat :=
  [0, 0, 20, 4, 8, 0]

/-- Every field of a row starts in the same column as its heading. -/
def LinesUp (v : ServerView) : Prop :=
  ∃ columns : List Nat, columns.length = 6 ∧ SetOut 0 (headings.zip columns) heading.toList ∧
    SetOut 0 ((fields v).zip columns) (row v).toList

theorem heading_eq : heading = line (headings.zipWith Cell.mk headingWidths) := by
  decide

theorem row_eq (v : ServerView) : row v = line ((fields v).zipWith Cell.mk rowWidths) := by
  simp [row, line, fields, address, rowWidths, Cell.padded, Text.padRight]

theorem setOut_heading :
    SetOut 0 (headings.zip [0, 16, 29, 50, 55, 64]) heading.toList := by
  rw [heading_eq]
  exact setOut_line (headings.zipWith Cell.mk headingWidths) 0 0

theorem setOut_row {v : ServerView} {drift : Nat} (haddress : (address v).length ≤ 20)
    (hcpu : (toString v.server.cpu).length ≤ 4) (hmemory : (toString v.server.memory).length ≤ 8)
    (hdrift : v.server.tenant.text.length + v.server.state.name.length + drift = 27) :
    SetOut 0 ((fields v).zip [0, v.server.tenant.text.length + 1, 29 - drift, 50 - drift,
      55 - drift, 64 - drift]) (row v).toList := by
  have hstarts : starts 0 ((fields v).zipWith Cell.mk rowWidths) =
      [0, v.server.tenant.text.length + 1, 29 - drift, 50 - drift, 55 - drift, 64 - drift] := by
    simp [fields, rowWidths, starts, Nat.max_eq_left haddress, Nat.max_eq_left hcpu,
      Nat.max_eq_left hmemory]
    omega
  have htexts : ((fields v).zipWith Cell.mk rowWidths).map Cell.text = fields v := rfl
  have hline := setOut_line ((fields v).zipWith Cell.mk rowWidths) 0 0
  rwa [← row_eq, htexts, Nat.add_zero, hstarts, List.replicate_zero, List.nil_append] at hline

theorem any_not_space (t : TenantId) : t.text.toList.any (· != ' ') = true := by
  have hlabel := t.label
  simp only [isLabel, Bool.and_eq_true] at hlabel
  obtain ⟨c, hc, hletter⟩ := (Option.any_eq_true _ _).1 hlabel.1.2
  refine List.any_eq_true.2 ⟨c, List.mem_of_mem_head? hc, bne_iff_ne.2 ?_⟩
  rintro rfl
  exact absurd hletter (by decide)

/-- The address cannot stand below its heading, because the state is shorter than its width. -/
theorem not_linesUp {v : ServerView} (htenant : v.server.tenant.text.length ≤ 15)
    (haddress : (address v).length ≤ 20) (hcpu : (toString v.server.cpu).length ≤ 4)
    (hmemory : (toString v.server.memory).length ≤ 8) : ¬ LinesUp v := by
  have hstate : v.server.state.name.length ≤ 10 := by
    cases v.server.state <;> decide
  have hstate_word : v.server.state.name.toList.any (· != ' ') = true := by
    cases v.server.state <;> decide
  have haddress_word : (address v).toList.any (· != ' ') = true :=
    List.any_eq_true.2 ⟨':', by simp [address], by decide⟩
  obtain ⟨drift, hdrift⟩ : ∃ drift,
      v.server.tenant.text.length + v.server.state.name.length + drift = 27 :=
    ⟨27 - (v.server.tenant.text.length + v.server.state.name.length), by omega⟩
  rintro ⟨columns, hcolumns, hheading, hfields⟩
  match columns, hcolumns with
  | [a, b, c, d, e, f], _ =>
    obtain ⟨rfl, _, hbelow, hheading⟩ := setOut_heading.start_eq (by decide) hheading
    obtain ⟨rfl, _, hbelow, hheading⟩ := hbelow.start_eq (by decide) hheading
    obtain ⟨rfl, -⟩ := hbelow.start_eq (by decide) hheading
    have hrow := setOut_row haddress hcpu hmemory hdrift
    obtain ⟨-, _, hbehind, hfields⟩ := hrow.start_eq (any_not_space v.server.tenant) hfields
    obtain ⟨-, _, hbehind, hfields⟩ := hbehind.start_eq hstate_word hfields
    obtain ⟨hstart, -⟩ := hbehind.start_eq haddress_word hfields
    omega

/-- A row does not line up with its headings: the tenant and the state leave at least two columns
of their widths, and all that comes behind them stands that much too far to the left. -/
theorem row_drifts {v : ServerView} (htenant : v.server.tenant.text.length ≤ 15)
    (haddress : (address v).length ≤ 20) (hcpu : (toString v.server.cpu).length ≤ 4)
    (hmemory : (toString v.server.memory).length ≤ 8) :
    SetOut 0 (headings.zip [0, 16, 29, 50, 55, 64]) heading.toList ∧
    (∃ drift, 2 ≤ drift ∧
      v.server.tenant.text.length + v.server.state.name.length + drift = 27 ∧
      SetOut 0 ((fields v).zip [0, v.server.tenant.text.length + 1, 29 - drift, 50 - drift,
        55 - drift, 64 - drift]) (row v).toList) ∧
    ¬ LinesUp v := by
  have hstate : v.server.state.name.length ≤ 10 := by
    cases v.server.state <;> decide
  obtain ⟨drift, hdrift⟩ : ∃ drift,
      v.server.tenant.text.length + v.server.state.name.length + drift = 27 :=
    ⟨27 - (v.server.tenant.text.length + v.server.state.name.length), by omega⟩
  exact ⟨setOut_heading,
    ⟨drift, by omega, hdrift, setOut_row haddress hcpu hmemory hdrift⟩,
    not_linesUp htenant haddress hcpu hmemory⟩

/-- A small server of a tenant with a short id. -/
def smallView : ServerView :=
  ⟨{ (default : Server) with ip := "203.0.113.7", port := 2456, cpu := 2, memory := 4 }, default⟩

theorem row_drifts_of_small :
    smallView.server.tenant.text.length ≤ 15 ∧ (address smallView).length ≤ 20 ∧
      (toString smallView.server.cpu).length ≤ 4 ∧ (toString smallView.server.memory).length ≤ 8 ∧
      ¬ LinesUp smallView :=
  ⟨by decide, by decide, by decide, by decide,
    (row_drifts (by decide) (by decide) (by decide) (by decide)).2.2⟩

/-- The fields of a row need not line up with their headings, however short they are. -/
theorem exists_out_of_line : ¬ ∀ v : ServerView, v.server.tenant.text.length ≤ 15 →
    (address v).length ≤ 20 → (toString v.server.cpu).length ≤ 4 →
      (toString v.server.memory).length ≤ 8 → LinesUp v := by
  intro h
  have hsmall : LinesUp smallView := h smallView (by decide) (by decide) (by decide) (by decide)
  exact not_linesUp (by decide) (by decide) (by decide) (by decide) hsmall

end CommandLine

end Steading

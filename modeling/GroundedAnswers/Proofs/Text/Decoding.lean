import GroundedAnswers.Text.Utf8

namespace GroundedAnswers.Text.Utf8

/-! Decoding a text that goes on. More bytes change nothing about what was read or what can never be
read; they only complete a sequence that lacks its last bytes. -/

/-! ## One character -/

def Step.append (later : List UInt8) : Step → Step
  | .character value rest => .character value (rest ++ later)
  | .fault cause => .fault cause

section

variable {lowest highest : UInt8} {bits taken count : Nat} {bytes : List UInt8}

private theorem follow_append
    (decided : follow lowest highest bits taken count bytes ≠ .fault .incomplete)
    (later : List UInt8) :
    follow lowest highest bits taken count (bytes ++ later) =
      (follow lowest highest bits taken count bytes).append later := by
  induction count generalizing lowest highest bits taken bytes with
  | zero => rfl
  | succ count induction =>
      cases bytes with
      | nil => exact absurd rfl decided
      | cons byte rest =>
          rw [follow] at decided
          rw [List.cons_append, follow, follow]
          split at decided
          · rename_i fits
            rw [if_pos fits, if_pos fits]
            exact induction decided
          · rename_i misfit
            rw [if_neg misfit, if_neg misfit]
            rfl

private theorem le_of_follow_invalid {length : Nat}
    (bad : follow lowest highest bits taken count bytes = .fault (.invalid length)) :
    length ≤ taken + bytes.length := by
  induction count generalizing lowest highest bits taken bytes with
  | zero => cases bad
  | succ count induction =>
      cases bytes with
      | nil => cases bad
      | cons byte rest =>
          rw [follow] at bad
          rw [List.length_cons]
          split at bad
          · have bounded := induction bad
            omega
          · cases bad
            omega

/-- A line feed never belongs to a sequence. -/
theorem follow_lineFeed (high : 0x80 ≤ lowest)
    (lacks : follow lowest highest bits taken count bytes = .fault .incomplete) :
    follow lowest highest bits taken count (bytes ++ [0x0A]) =
      .fault (.invalid (taken + bytes.length)) := by
  induction count generalizing lowest highest bits taken bytes with
  | zero => cases lacks
  | succ count induction =>
      cases bytes with
      | nil =>
          have misfit : ¬(lowest ≤ 0x0A ∧ 0x0A ≤ highest) :=
            fun fits => absurd (UInt8.le_trans high fits.1) (by decide)
          rw [List.nil_append, follow, if_neg misfit]
          rfl
      | cons byte rest =>
          rw [follow] at lacks
          rw [List.cons_append, follow]
          split at lacks
          · rename_i fits
            have later := induction (UInt8.le_refl _) lacks
            rw [if_pos fits, later, List.length_cons, Nat.add_right_comm, Nat.add_assoc]
          · cases lacks

end

private theorem le_lowest_of_lead? {byte : UInt8} {lead : Lead} (leads : lead? byte = some lead) :
    0x80 ≤ lead.lowest := by
  unfold lead? at leads
  repeat' split at leads
  all_goals cases leads
  all_goals dsimp only
  all_goals decide

section

variable {bytes : List UInt8}

private theorem step_append (decided : step bytes ≠ .fault .incomplete) (later : List UInt8) :
    step (bytes ++ later) = (step bytes).append later := by
  cases bytes with
  | nil => exact absurd rfl decided
  | cons byte rest =>
      rw [step] at decided
      rw [List.cons_append, step, step]
      cases leads : lead? byte with
      | none => rfl
      | some lead =>
          rw [leads] at decided
          exact follow_append decided later

private theorem le_of_step_invalid {length : Nat} (bad : step bytes = .fault (.invalid length)) :
    length ≤ bytes.length := by
  cases bytes with
  | nil => cases bad
  | cons byte rest =>
      rw [step] at bad
      rw [List.length_cons]
      cases leads : lead? byte with
      | none =>
          rw [leads] at bad
          cases bad
          omega
      | some lead =>
          rw [leads] at bad
          have bounded := le_of_follow_invalid bad
          omega

private theorem step_lineFeed (present : bytes ≠ []) (lacks : step bytes = .fault .incomplete) :
    step (bytes ++ [0x0A]) = .fault (.invalid bytes.length) := by
  cases bytes with
  | nil => exact absurd rfl present
  | cons byte rest =>
      rw [step] at lacks
      rw [List.cons_append, step]
      cases leads : lead? byte with
      | none =>
          rw [leads] at lacks
          cases lacks
      | some lead =>
          rw [leads] at lacks
          have later := follow_lineFeed (le_lowest_of_lead? leads) lacks
          rw [List.length_cons, Nat.add_comm]
          exact later

/-! ## Whole texts -/

private theorem decodeFront_of_character {value : Char} {rest : List UInt8}
    (read : step bytes = .character value rest) :
    decodeFront bytes = (value :: (decodeFront rest).1, (decodeFront rest).2) := by
  rw [decodeFront]
  split
  · rename_i found
    cases read.symm.trans found
    rfl
  · rename_i found
    cases read.symm.trans found

theorem decodeFront_of_fault {cause : Fault} (bad : step bytes = .fault cause) :
    decodeFront bytes = ([], bytes) := by
  rw [decodeFront]
  split
  · rename_i found
    cases bad.symm.trans found
  · rfl

private theorem decodeReplacing_of_character {value : Char} {rest : List UInt8}
    (read : step bytes = .character value rest) :
    decodeReplacing bytes = value :: decodeReplacing rest := by
  rw [decodeReplacing]
  split
  · rename_i found
    cases read.symm.trans found
    rfl
  · rename_i found
    cases read.symm.trans found
  · rename_i found
    cases read.symm.trans found

private theorem decodeReplacing_of_invalid {length : Nat} (present : bytes ≠ [])
    (bad : step bytes = .fault (.invalid length)) :
    decodeReplacing bytes = '\uFFFD' :: decodeReplacing (bytes.drop (max length 1)) := by
  rw [decodeReplacing]
  split
  · rename_i found
    cases bad.symm.trans found
  · rename_i found
    cases bad.symm.trans found
  · rename_i found
    cases bad.symm.trans found
    rw [if_neg present]

private theorem decodeReplacing_of_incomplete (present : bytes ≠ [])
    (lacks : step bytes = .fault .incomplete) : decodeReplacing bytes = ['\uFFFD'] := by
  rw [decodeReplacing]
  split
  · rename_i found
    cases lacks.symm.trans found
  · rw [if_neg present]
  · rename_i found
    cases lacks.symm.trans found

end

/-- What decoding leaves stays as it is when it is decoded again. -/
theorem decodeFront_left (bytes : List UInt8) :
    decodeFront (decodeFront bytes).2 = ([], (decodeFront bytes).2) := by
  induction bytes using decodeFront.induct with
  | case1 bytes value rest read characters remaining decoded induction =>
      rw [decodeFront_of_character read]
      exact induction
  | case2 bytes cause bad =>
      rw [decodeFront_of_fault bad]
      exact decodeFront_of_fault bad

/-- Bytes may be decoded in two parts, if what the first part leaves is put before the second. -/
theorem decodeFront_append (bytes later : List UInt8) :
    decodeFront (bytes ++ later) =
      ((decodeFront bytes).1 ++ (decodeFront ((decodeFront bytes).2 ++ later)).1,
        (decodeFront ((decodeFront bytes).2 ++ later)).2) := by
  induction bytes using decodeFront.induct with
  | case1 bytes value rest read characters remaining decoded induction =>
      have goesOn : step (bytes ++ later) = .character value (rest ++ later) := by
        rw [step_append (by rw [read]; exact nofun), read]
        rfl
      rw [decodeFront_of_character goesOn, decodeFront_of_character read, induction]
      rfl
  | case2 bytes cause bad =>
      rw [decodeFront_of_fault bad]
      rfl

theorem decodeReplacing_lineFeed (bytes : List UInt8) :
    decodeReplacing (bytes ++ [0x0A]) = decodeReplacing bytes ++ ['\n'] := by
  have alone : decodeReplacing [0x0A] = ['\n'] := by
    decide +kernel
  have nothing : decodeReplacing [] = [] := by
    decide +kernel
  induction bytes using decodeReplacing.induct with
  | case1 bytes value rest read induction =>
      have goesOn : step (bytes ++ [0x0A]) = .character value (rest ++ [0x0A]) := by
        rw [step_append (by rw [read]; exact nofun), read]
        rfl
      rw [decodeReplacing_of_character goesOn, decodeReplacing_of_character read, induction]
      rfl
  | case2 lacks =>
      rw [nothing]
      exact alone
  | case3 bytes lacks present =>
      have ends := step_lineFeed present lacks
      rw [decodeReplacing_of_invalid (by simp) ends, decodeReplacing_of_incomplete present lacks]
      have whole : max bytes.length 1 = bytes.length := by
        have := List.length_pos_iff.mpr present
        omega
      rw [whole, List.drop_left, alone]
      rfl
  | case4 length bad => cases bad
  | case5 bytes length bad present induction =>
      have still : step (bytes ++ [0x0A]) = .fault (.invalid length) := by
        rw [step_append (by rw [bad]; exact nofun), bad]
        rfl
      have within : max length 1 ≤ bytes.length := by
        have := List.length_pos_iff.mpr present
        have := le_of_step_invalid bad
        omega
      rw [decodeReplacing_of_invalid (by simp) still, decodeReplacing_of_invalid present bad,
        List.drop_append_of_le_length within, induction]
      rfl

end GroundedAnswers.Text.Utf8

import PostgresqlK8s.Lib.Dict
import PostgresqlK8s.Lib.Quoting
import PostgresqlK8s.Lib.Text
import PostgresqlK8s.Backups.Repository

/-!
# Hba.LdapOptions

The LDAP options of a pg_hba rule: how the parameters become the text behind
the method, and what PostgreSQL reads there.  Values stand in double quotes,
but quotes in them are left as they are.  An option is read back exactly if its
value has none (`counted_of_lex`).
-/

namespace PostgresqlK8s.Hba

open Backups

/-! ## the parameters -/

/-- A value of the dictionary of the options, before or after the rewriting. -/
inductive HbaValue
  | text (value : String)
  | flag (value : Bool)
  | number (value : Nat)
deriving DecidableEq, Repr

namespace HbaValue

/-- `str(value)`. -/
def str : HbaValue → String
  | text value => value
  | flag value => if value then "True" else "False"
  | number value => toString value

/-- What the loop writes for a value; numbers stay. -/
def rewritten : HbaValue → Option HbaValue
  | text value => some (text ("\"" ++ value ++ "\""))
  | flag value => some (number (if value then 1 else 0))
  | number _ => none

end HbaValue

/-- `_dict_to_hba_string`. -/
def dictToHbaString (d : Dict String HbaValue) : String :=
  Text.join ' ' ((d.rewrite fun e => e.2.rewritten).entries.map fun e => e.1 ++ "=" ++ e.2.str)

/-- What the LDAP provider offers. -/
structure LdapProviderData where
  baseDn : String
  bindDn : String
  bindPassword : String
  starttls : Bool
  urls : List String

/-- `get_ldap_parameters`. -/
def getLdapParameters (isClusterInitialised isLdapCharmRelated : Bool)
    (relationData : Option LdapProviderData) (ldapSearchFilter : String) :
    Except PyError (Dict String HbaValue) :=
  if !isClusterInitialised then .ok ∅
  else if !isLdapCharmRelated then .ok ∅
  else match relationData with
    | none => .ok ∅
    | some data =>
        match data.urls with
        | [] => .error .indexError
        | url :: _ => .ok ((∅ : Dict String HbaValue).update [("ldapbasedn", .text data.baseDn),
            ("ldapbinddn", .text data.bindDn), ("ldapbindpasswd", .text data.bindPassword),
            ("ldaptls", .flag data.starttls), ("ldapurl", .text url),
            ("ldapsearchfilter", .text ldapSearchFilter)])

/-! ## what PostgreSQL reads -/

/-- The characters between tokens, outside quotes. -/
def isSeparator (c : Char) : Bool := c == ' ' || c == '\t' || c == '\r' || c == ','

/-- The tokens of a line.  Quotes only say where a token does not end; two of
them, inside quotes, are one in the token.  The state is whether a quote is
open, whether the last character has closed one, and the token so far.  A quote
that is not closed is not read. -/
def lex : Bool → Bool → Option (List Char) → List Char → Option (List (List Char))
  | inQuote, _, token, [] => if inQuote then none else some token.toList
  | inQuote, wasQuote, token, c :: cs =>
      if inQuote = false ∧ isSeparator c = true then
        (token.toList ++ ·) <$> lex false false none cs
      else if inQuote = false ∧ c = '#' then some token.toList
      else lex (if c = '"' then !inQuote else inQuote) (inQuote && c == '"')
        (some (token.getD [] ++ if c ≠ '"' ∨ wasQuote = true then [c] else [])) cs

/-- The name and the value of an option. -/
def splitOption (token : List Char) : Option (List Char × List Char) :=
  match token.dropWhile (· != '=') with
  | [] => none
  | _ :: value => some (token.takeWhile (· != '='), value)

/-- The options of a rule. -/
def readOptions (line : String) : Option (List (List Char × List Char)) := do
  let tokens ← lex false false none line.toList
  tokens.mapM splitOption

/-! ## unambiguous options -/

/-- A character of the name of an option. -/
def isNameChar (c : Char) : Bool := !isSeparator c && c != '#' && c != '"' && c != '='

/-- Parameters under the names of options, texts or Booleans. -/
structure LdapParameters where
  dict : Dict String HbaValue
  names : ∀ k ∈ dict.keys, ∀ c ∈ k.toList, isNameChar c = true
  values : ∀ e ∈ dict.entries, ∀ n, e.2 ≠ .number n

/-- The names can be checked one by one. -/
theorem names_of_all {ks : List String} (h : (ks.all (·.toList.all isNameChar)) = true) :
    ∀ k ∈ ks, ∀ c ∈ k.toList, isNameChar c = true := by
  intro k hk
  exact List.all_eq_true.mp (List.all_eq_true.mp h k hk)

/-- Parameters that are written one after another. -/
theorem exists_of_update {l : List (String × HbaValue)}
    (names : ((l.map Prod.fst).all (·.toList.all isNameChar)) = true)
    (values : ∀ e ∈ l, ∀ n, e.2 ≠ .number n) :
    ∃ p : LdapParameters, p.dict = (∅ : Dict String HbaValue).update l := by
  refine ⟨⟨_, ?_, ?_⟩, rfl⟩
  · intro k hk
    exact names_of_all names k ((Dict.mem_keys_update.mp hk).resolve_right List.not_mem_nil)
  · intro e he
    rcases Dict.mem_entries_update.mp he with hlast | ⟨-, hempty⟩
    · exact values _ hlast.mem
    · cases hempty

/-- What the charm renders are such parameters. -/
theorem exists_ldapParameters {isClusterInitialised isLdapCharmRelated : Bool}
    {relationData : Option LdapProviderData} {ldapSearchFilter : String}
    {d : Dict String HbaValue}
    (h : getLdapParameters isClusterInitialised isLdapCharmRelated relationData
      ldapSearchFilter = .ok d) : ∃ p : LdapParameters, p.dict = d := by
  have hempty : ∃ p : LdapParameters, p.dict = ∅ := ⟨⟨∅, by simp, by simp⟩, rfl⟩
  unfold getLdapParameters at h
  split at h
  · cases h
    exact hempty
  · split at h
    · cases h
      exact hempty
    · split at h
      · cases h
        exact hempty
      · split at h
        · cases h
        · next data url urls hurls =>
          cases h
          refine exists_of_update ?_ (by simp)
          simp only [List.map_cons, List.map_nil]
          decide

namespace LdapParameters

variable (d d' : LdapParameters)

/-- The pair that an option stands for. -/
def pair (e : String × HbaValue) : List Char × List Char :=
  (e.1.toList, match e.2 with
    | .text value => value.toList
    | .flag value => if value then ['1'] else ['0']
    | .number _ => [])

def pairs : List (List Char × List Char) := d.dict.entries.map pair

/-- The rendered text is read as the parameters. -/
def ReadsBack : Prop := readOptions (dictToHbaString d.dict) = some d.pairs

/-- Different parameters are rendered differently, and both are read back. -/
structure Unambiguous : Prop where
  injective : dictToHbaString d.dict = dictToHbaString d'.dict → d.dict = d'.dict
  left : d.ReadsBack
  right : d'.ReadsBack

/-- No text has a double quote. -/
def NoQuotes : Prop := ∀ e ∈ d.dict.entries, ∀ value, e.2 = .text value → '"' ∉ value.toList

end LdapParameters

/-! ## the rendered text -/

/-- The text behind the equals sign. -/
def valueText : HbaValue → List Char
  | .text value => '"' :: (value.toList ++ ['"'])
  | .flag value => if value then ['1'] else ['0']
  | .number _ => []

def optionText (e : String × HbaValue) : List Char := e.1.toList ++ '=' :: valueText e.2

/-- Options with a blank between them. -/
def line : List (String × HbaValue) → List Char
  | [] => []
  | [e] => optionText e
  | e :: e' :: es => optionText e ++ ' ' :: line (e' :: es)

/-- What follows the first of several options. -/
def tail : List (String × HbaValue) → List Char
  | [] => []
  | e :: es => ' ' :: line (e :: es)

theorem line_cons (e : String × HbaValue) (es : List (String × HbaValue)) :
    line (e :: es) = optionText e ++ tail es := by
  cases es with
  | nil => exact (List.append_nil _).symm
  | cons e' es => rfl

theorem intercalate_optionText (es : List (String × HbaValue)) :
    [' '].intercalate (es.map optionText) = line es := by
  induction es with
  | nil => rfl
  | cons e es ih =>
    rw [line_cons]
    cases es with
    | nil => simp [tail, List.intercalate]
    | cons e' es =>
      rw [tail, ← ih]
      simp [List.intercalate]

/-- The loop writes the values as they are rendered. -/
theorem str_rewritten {value : HbaValue} (h : ∀ n, value ≠ .number n) :
    ((value.rewritten).getD value).str.toList = valueText value := by
  cases value with
  | text value => simp [HbaValue.rewritten, HbaValue.str, valueText]
  | flag value =>
    cases value with
    | false => rfl
    | true => rfl
  | number n => exact absurd rfl (h n)

theorem LdapParameters.toList_dictToHbaString (d : LdapParameters) :
    (dictToHbaString d.dict).toList = line d.dict.entries := by
  rw [dictToHbaString, Dict.entries_rewrite, Text.join, String.toList_ofList, List.map_map,
    List.map_map, ← intercalate_optionText]
  congr 1
  refine List.map_congr_left fun e he => ?_
  rw [Function.comp_apply, Function.comp_apply, optionText, ← str_rewritten (d.values e he)]
  simp

/-! ## one character of a line -/

section Lex

variable {c : Char} {cs t : List Char} {token : Option (List Char)} {wasQuote : Bool}

theorem lex_separator (h : isSeparator c = true) :
    lex false wasQuote token (c :: cs) = (token.toList ++ ·) <$> lex false false none cs := by
  rw [lex, if_pos ⟨rfl, h⟩]

theorem lex_comment : lex false wasQuote token ('#' :: cs) = some token.toList := by
  rw [lex, if_neg (by decide), if_pos ⟨rfl, rfl⟩]

theorem lex_unquoted (hsep : isSeparator c = false) (hhash : c ≠ '#') (hquote : c ≠ '"') :
    lex false wasQuote token (c :: cs) = lex false false (some (token.getD [] ++ [c])) cs := by
  rw [lex, if_neg (by simp [hsep]), if_neg (by simp [hhash]), if_neg hquote, if_pos (.inl hquote)]
  rfl

theorem lex_open :
    lex false wasQuote token ('"' :: cs) =
      lex true false (some (token.getD [] ++ if wasQuote then ['"'] else [])) cs := by
  rw [lex, if_neg (by decide), if_neg (by decide), if_pos rfl]
  simp

theorem lex_quoted (hquote : c ≠ '"') :
    lex true wasQuote (some t) (c :: cs) = lex true false (some (t ++ [c])) cs := by
  rw [lex, if_neg (by simp), if_neg (by simp), if_neg hquote, if_pos (.inl hquote),
    beq_eq_false_iff_ne.mpr hquote, Bool.and_false]
  rfl

theorem lex_close : lex true false (some t) ('"' :: cs) = lex false true (some t) cs := by
  rw [lex, if_neg (by simp), if_neg (by simp), if_pos rfl]
  simp

/-- A token only grows. -/
theorem prefix_of_lex {inQuote : Bool} {T : List Char} {Ts : List (List Char)}
    (h : lex inQuote wasQuote (some t) cs = some (T :: Ts)) : t <+: T := by
  induction cs generalizing inQuote wasQuote t with
  | nil =>
    cases inQuote with
    | true => cases h
    | false =>
      cases h
      exact List.prefix_rfl
  | cons c cs ih =>
    rw [lex] at h
    split at h
    · obtain ⟨tokens, -, heq⟩ := Option.map_eq_some_iff.mp h
      cases heq
      exact List.prefix_rfl
    · split at h
      · cases h
        exact List.prefix_rfl
      · exact (List.prefix_append t _).trans (ih h)

end Lex

/-! ## an option without quotes is read back -/

section Option

variable {cs t rest : List Char}

theorem lex_nameChar {c : Char} {token : Option (List Char)} (h : isNameChar c = true) :
    lex false false token (c :: cs) = lex false false (some (token.getD [] ++ [c])) cs := by
  simp only [isNameChar, Bool.and_eq_true, Bool.not_eq_true', bne_iff_ne] at h
  exact lex_unquoted h.1.1.1 h.1.1.2 h.1.2

theorem lex_equals {token : Option (List Char)} :
    lex false false token ('=' :: cs) = lex false false (some (token.getD [] ++ ['='])) cs :=
  lex_unquoted (by decide) (by decide) (by decide)

/-- The name, with the equals sign, is the start of a token. -/
theorem lex_name {name : List Char} {token : Option (List Char)}
    (h : ∀ c ∈ name, isNameChar c = true) (cs : List Char) :
    lex false false token (name ++ '=' :: cs) =
      lex false false (some (token.getD [] ++ (name ++ ['=']))) cs := by
  induction name generalizing token with
  | nil => exact lex_equals
  | cons c name ih =>
    rw [List.forall_mem_cons] at h
    rw [List.cons_append, lex_nameChar h.1, ih h.2]
    simp

/-- The text between quotes is the rest of the token. -/
theorem lex_text {value : List Char} (h : '"' ∉ value) (rest : List Char) :
    lex false false (some t) ('"' :: (value ++ '"' :: rest)) =
      lex false true (some (t ++ value)) rest := by
  have hquoted (t : List Char) : lex true false (some t) (value ++ '"' :: rest) =
      lex false true (some (t ++ value)) rest := by
    induction value generalizing t with
    | nil =>
      rw [List.nil_append, lex_close, List.append_nil]
    | cons c value ih =>
      rw [List.mem_cons, not_or] at h
      rw [List.cons_append, lex_quoted (Ne.symm h.1), ih h.2]
      simp
  rw [lex_open, if_neg Bool.false_ne_true, Option.getD_some, List.append_nil, hquoted]

/-- A digit is a token to its end. -/
theorem lex_digit {c : Char} (h : c = '0' ∨ c = '1') (rest : List Char) :
    lex false false (some t) (c :: rest) = lex false false (some (t ++ [c])) rest := by
  rcases h with rfl | rfl
  · exact lex_unquoted (by decide) (by decide) (by decide)
  · exact lex_unquoted (by decide) (by decide) (by decide)

end Option

/-- The token of a pair. -/
def joined (p : List Char × List Char) : List Char := p.1 ++ '=' :: p.2

theorem splitOption_joined {p : List Char × List Char} (h : ∀ c ∈ p.1, c ≠ '=') :
    splitOption (joined p) = some p := by
  have hname : ∀ c ∈ p.1, (c != '=') = true := by simpa using h
  rw [splitOption, joined, List.dropWhile_append_of_pos hname, List.takeWhile_append_of_pos hname]
  simp

/-- A token is split at its first equals sign. -/
theorem joined_of_splitOption {token : List Char} {p : List Char × List Char}
    (h : splitOption token = some p) : token = joined p := by
  have happend := List.takeWhile_append_dropWhile (p := (· != '=')) (l := token)
  rw [splitOption] at h
  split at h
  · cases h
  · next c value hdrop =>
    cases h
    have hc : c = '=' := by
      have hhead := List.head?_dropWhile_not (· != '=') token
      rw [hdrop] at hhead
      simpa using hhead
    rw [hdrop, hc] at happend
    exact happend.symm

/-- The pairs of the tokens tell the tokens. -/
theorem mapM_splitOption {tokens : List (List Char)} {pairs : List (List Char × List Char)}
    (h : tokens.mapM splitOption = some pairs) : tokens = pairs.map joined := by
  induction tokens generalizing pairs with
  | nil =>
    cases h
    rfl
  | cons token tokens ih =>
    rw [List.mapM_cons] at h
    obtain ⟨p, hp, h⟩ := Option.bind_eq_some_iff.mp h
    obtain ⟨ps, hps, h⟩ := Option.bind_eq_some_iff.mp h
    cases h
    rw [List.map_cons, ← joined_of_splitOption hp, ← ih hps]

theorem mapM_splitOption_joined {pairs : List (List Char × List Char)}
    (h : ∀ p ∈ pairs, ∀ c ∈ p.1, c ≠ '=') :
    (pairs.map joined).mapM splitOption = some pairs := by
  induction pairs with
  | nil => rfl
  | cons p ps ih =>
    rw [List.forall_mem_cons] at h
    rw [List.map_cons, List.mapM_cons, splitOption_joined h.1, ih h.2]
    rfl

/-- A token ends where the options go on, or the line ends. -/
theorem lex_tail {t : List Char} {wasQuote : Bool} (es : List (String × HbaValue)) :
    lex false wasQuote (some t) (tail es) = (t :: ·) <$> lex false false none (line es) := by
  cases es with
  | nil => rfl
  | cons e es => exact lex_separator (by decide)

open LdapParameters in
/-- An option without quotes is a token, and what follows is read on its own. -/
theorem lex_optionText {e : String × HbaValue} (hname : ∀ c ∈ e.1.toList, isNameChar c = true)
    (hvalue : ∀ n, e.2 ≠ .number n) (hquotes : ∀ value, e.2 = .text value → '"' ∉ value.toList)
    (es : List (String × HbaValue)) :
    lex false false none (optionText e ++ tail es) =
      (joined (pair e) :: ·) <$> lex false false none (line es) := by
  obtain ⟨name, value⟩ := e
  rw [optionText, List.append_assoc, List.cons_append, lex_name hname]
  have htoken (value : List Char) : ([] ++ (name.toList ++ ['='])) ++ value =
      joined (name.toList, value) := by
    simp [joined]
  cases value with
  | text value =>
    have hvalue : valueText (.text value) ++ tail es = '"' :: (value.toList ++ '"' :: tail es) := by
      simp [valueText]
    dsimp only
    rw [hvalue, lex_text (hquotes value rfl), lex_tail, Option.getD_none, htoken]
    rfl
  | flag value =>
    cases value with
    | false =>
      change lex false false _ ('0' :: tail es) = _
      rw [lex_digit (.inl rfl), lex_tail, Option.getD_none, htoken]
      rfl
    | true =>
      change lex false false _ ('1' :: tail es) = _
      rw [lex_digit (.inr rfl), lex_tail, Option.getD_none, htoken]
      rfl
  | number n => exact absurd rfl (hvalue n)

/-! ## an option with quotes is not -/

/-- The characters of a text that are no quotes. -/
def others (l : List Char) : Nat := l.countP (· != '"')

theorem others_append (l l' : List Char) : others (l ++ l') = others l + others l' :=
  List.countP_append

theorem others_cons_of_ne {c : Char} (h : c ≠ '"') (l : List Char) :
    others (c :: l) = others l + 1 :=
  List.countP_cons_of_pos (by simpa using h)

theorem others_cons_quote (l : List Char) : others ('"' :: l) = others l :=
  List.countP_cons_of_neg (by decide)

theorem others_le_of_prefix {l l' : List Char} (h : l <+: l') : others l ≤ others l' :=
  h.sublist.countP_le

section Count

/-- The token `T`, of which `t` is read and `value` is left, has other
characters than both, or at most half of the quotes, which only come in pairs.
Before an open quote is closed one more is left than after it. -/
def Counted (inQuote : Bool) (t value T : List Char) : Prop :=
  others T ≠ others t + others value ∨
    2 * T.count '"' ≤ 2 * t.count '"' + value.count '"' + if inQuote then 0 else 1

variable {inQuote wasQuote : Bool} {t value T : List Char} {c : Char}

theorem counted_nil : Counted true T [] T := by
  refine .inr ?_
  rw [if_pos rfl]
  simp

/-- A character that is no quote belongs to the token. -/
theorem Counted.cons (hquote : c ≠ '"') (h : Counted inQuote (t ++ [c]) value T) :
    Counted inQuote t (c :: value) T := by
  have hone : others [c] = 1 := others_cons_of_ne hquote []
  have hcount : [c].count '"' = 0 := List.count_eq_zero.mpr (by simpa using Ne.symm hquote)
  rw [Counted, others_append, List.count_append, hone, hcount] at h
  rw [Counted, others_cons_of_ne hquote, List.count_cons_of_ne hquote]
  omega

/-- A token that ends before such a character misses it. -/
theorem counted_of_ended (hquote : c ≠ '"') : Counted inQuote T (c :: value) T := by
  refine .inl ?_
  rw [others_cons_of_ne hquote]
  omega

theorem Counted.closed (h : Counted false t value T) : Counted true t ('"' :: value) T := by
  rw [Counted, if_neg Bool.false_ne_true] at h
  rw [Counted, others_cons_quote, List.count_cons_self, if_pos rfl]
  omega

/-- A quote that opens right behind one that closed belongs to the token. -/
theorem Counted.opened (h : Counted true (t ++ if wasQuote then ['"'] else []) value T) :
    Counted false t ('"' :: value) T := by
  rw [Counted, others_append, List.count_append, if_pos rfl] at h
  rw [Counted, others_cons_quote, List.count_cons_self, if_neg Bool.false_ne_true]
  have hothers : others (if wasQuote then ['"'] else []) = 0 := by
    cases wasQuote with
    | true => rfl
    | false => rfl
  have hcount : (if wasQuote then ['"'] else []).count '"' ≤ 1 := by
    cases wasQuote with
    | true => exact Nat.le_refl 1
    | false => exact Nat.zero_le 1
  omega

variable {Ts : List (List Char)} {es : List (String × HbaValue)}

/-- The quote behind the value: the token ends, or the blank that follows
belongs to it. -/
theorem counted_of_lex_close (hstate : inQuote = true → wasQuote = false)
    (h : lex inQuote wasQuote (some t) ('"' :: tail es) = some (T :: Ts)) :
    Counted inQuote t [] T := by
  cases inQuote with
  | true =>
    rw [hstate rfl, lex_close, lex_tail] at h
    obtain ⟨tokens, -, heq⟩ := Option.map_eq_some_iff.mp h
    cases heq
    exact counted_nil
  | false =>
    rw [lex_open] at h
    cases es with
    | nil => cases h
    | cons e es =>
      rw [tail, lex_quoted (by decide)] at h
      have hle := others_le_of_prefix (prefix_of_lex h)
      rw [Option.getD_some, others_append, others_append, others_cons_of_ne (by decide)] at hle
      refine .inl ?_
      have hnil : others [] = 0 := rfl
      omega

/-- The token that ends behind a value. -/
theorem counted_of_lex (hstate : inQuote = true → wasQuote = false)
    (h : lex inQuote wasQuote (some t) (value ++ '"' :: tail es) = some (T :: Ts)) :
    Counted inQuote t value T := by
  induction value generalizing t inQuote wasQuote with
  | nil => exact counted_of_lex_close hstate h
  | cons c value ih =>
    rw [List.cons_append] at h
    by_cases hquote : c = '"'
    · rw [hquote] at h ⊢
      cases inQuote with
      | true =>
        rw [hstate rfl, lex_close] at h
        exact (ih (fun hfalse => absurd hfalse Bool.false_ne_true) h).closed
      | false =>
        rw [lex_open, Option.getD_some] at h
        exact (ih (fun _ => rfl) h).opened
    · cases inQuote with
      | true =>
        rw [lex_quoted hquote] at h
        exact (ih (fun _ => rfl) h).cons hquote
      | false =>
        by_cases hsep : isSeparator c = true
        · rw [lex_separator hsep] at h
          obtain ⟨tokens, -, heq⟩ := Option.map_eq_some_iff.mp h
          cases heq
          exact counted_of_ended hquote
        · by_cases hhash : c = '#'
          · rw [hhash, lex_comment] at h
            cases h
            exact counted_of_ended hquote
          · rw [Bool.not_eq_true] at hsep
            rw [lex_unquoted hsep hhash hquote] at h
            exact (ih (fun _ => rfl) h).cons hquote

end Count

/-! ## what is read back -/

/-- A text that is read back has no quotes. -/
theorem not_mem_of_lex_optionText {name value : String}
    (hname : ∀ c ∈ name.toList, isNameChar c = true) {es : List (String × HbaValue)}
    {Ts : List (List Char)}
    (h : lex false false none (optionText (name, .text value) ++ tail es) =
      some (joined (name.toList, value.toList) :: Ts)) : '"' ∉ value.toList := by
  have htext : optionText (name, .text value) ++ tail es =
      name.toList ++ '=' :: '"' :: (value.toList ++ '"' :: tail es) := by
    simp [optionText, valueText]
  rw [htext, lex_name hname, lex_open, if_neg Bool.false_ne_true, List.append_nil,
    Option.getD_some, Option.getD_none, List.nil_append] at h
  have hjoined : joined (name.toList, value.toList) = (name.toList ++ ['=']) ++ value.toList := by
    simp [joined]
  have hcount := counted_of_lex (fun _ => rfl) h
  rw [Counted, hjoined, others_append, List.count_append, if_pos rfl] at hcount
  rw [← List.count_eq_zero]
  omega

open LdapParameters in
/-- The tokens of a line are the options exactly when no text has a quote. -/
theorem lex_line_iff {es : List (String × HbaValue)}
    (hnames : ∀ e ∈ es, ∀ c ∈ e.1.toList, isNameChar c = true)
    (hvalues : ∀ e ∈ es, ∀ n, e.2 ≠ .number n) :
    lex false false none (line es) = some ((es.map pair).map joined) ↔
      ∀ e ∈ es, ∀ value, e.2 = .text value → '"' ∉ value.toList := by
  induction es with
  | nil => exact iff_of_true rfl (by simp)
  | cons e es ih =>
    rw [List.forall_mem_cons] at hnames hvalues
    rw [List.forall_mem_cons, line_cons, ← ih hnames.2 hvalues.2, List.map_cons, List.map_cons]
    have hread (hquotes : ∀ value, e.2 = .text value → '"' ∉ value.toList) :
        lex false false none (optionText e ++ tail es) =
            some (joined (pair e) :: (es.map pair).map joined) ↔
          lex false false none (line es) = some ((es.map pair).map joined) := by
      rw [lex_optionText hnames.1 hvalues.1 hquotes]
      cases lex false false none (line es) with
      | none => simp
      | some tokens => simp
    constructor
    · intro h
      have hquotes : ∀ value, e.2 = .text value → '"' ∉ value.toList := by
        intro value hvalue
        obtain ⟨name, value'⟩ := e
        obtain rfl : value' = .text value := hvalue
        exact not_mem_of_lex_optionText hnames.1 h
      exact ⟨hquotes, (hread hquotes).mp h⟩
    · rintro ⟨hquotes, h⟩
      exact (hread hquotes).mpr h

/-! ## without quotes nothing is rendered alike -/

/-- A value without quotes ends where it is rendered to end. -/
theorem valueText_append_injective {v v' : HbaValue} {rest rest' : List Char}
    (hv : ∀ n, v ≠ .number n) (hv' : ∀ n, v' ≠ .number n)
    (hquotes : ∀ value, v = .text value → '"' ∉ value.toList)
    (hquotes' : ∀ value, v' = .text value → '"' ∉ value.toList)
    (h : valueText v ++ rest = valueText v' ++ rest') : v = v' ∧ rest = rest' := by
  cases v with
  | number n => exact absurd rfl (hv n)
  | text value =>
    cases v' with
    | number n => exact absurd rfl (hv' n)
    | flag value' =>
      cases value' with
      | false => cases h
      | true => cases h
    | text value' =>
      have htext (value : String) (rest : List Char) :
          valueText (.text value) ++ rest = '"' :: (value.toList ++ '"' :: rest) := by
        simp [valueText]
      rw [htext, htext, List.cons.injEq] at h
      obtain ⟨hvalue, hrest⟩ := Quoting.append_cons_injective (hquotes value rfl)
        (hquotes' value' rfl) h.2
      exact ⟨congrArg HbaValue.text (String.toList_inj.mp hvalue), hrest⟩
  | flag value =>
    cases v' with
    | number n => exact absurd rfl (hv' n)
    | text value' =>
      cases value with
      | false => cases h
      | true => cases h
    | flag value' =>
      cases value with
      | false =>
        cases value' with
        | false => exact ⟨rfl, (List.cons.inj h).2⟩
        | true => cases h
      | true =>
        cases value' with
        | false => cases h
        | true => exact ⟨rfl, (List.cons.inj h).2⟩

theorem tail_injective {es es' : List (String × HbaValue)} (h : tail es = tail es') :
    line es = line es' := by
  cases es with
  | nil =>
    cases es' with
    | nil => rfl
    | cons e' es' => cases h
  | cons e es =>
    cases es' with
    | nil => cases h
    | cons e' es' => exact (List.cons.inj h).2

theorem equals_mem_line (e : String × HbaValue) (es : List (String × HbaValue)) :
    '=' ∈ line (e :: es) := by
  rw [line_cons, optionText]
  simp

/-- Options that can be rendered: plain names, and texts without quotes or
Booleans. -/
structure Renderable (e : String × HbaValue) : Prop where
  name : ∀ c ∈ e.1.toList, isNameChar c = true
  value : ∀ n, e.2 ≠ .number n
  noQuotes : ∀ value, e.2 = .text value → '"' ∉ value.toList

theorem Renderable.equals_not_mem {e : String × HbaValue} (h : Renderable e) :
    '=' ∉ e.1.toList := by
  intro hmem
  have hchar := h.name '=' hmem
  revert hchar
  decide

theorem line_injective {es es' : List (String × HbaValue)} (h : ∀ e ∈ es, Renderable e)
    (h' : ∀ e ∈ es', Renderable e) (heq : line es = line es') : es = es' := by
  induction es generalizing es' with
  | nil =>
    cases es' with
    | nil => rfl
    | cons e' es' =>
      have hmem := equals_mem_line e' es'
      rw [← heq] at hmem
      cases hmem
  | cons e es ih =>
    cases es' with
    | nil =>
      have hmem := equals_mem_line e es
      rw [heq] at hmem
      cases hmem
    | cons e' es' =>
      rw [List.forall_mem_cons] at h h'
      rw [line_cons, line_cons, optionText, optionText, List.append_assoc, List.append_assoc,
        List.cons_append, List.cons_append] at heq
      obtain ⟨hname, hvalue⟩ := Quoting.append_cons_injective h.1.equals_not_mem
        h'.1.equals_not_mem heq
      obtain ⟨hvalue, htail⟩ := valueText_append_injective h.1.value h'.1.value h.1.noQuotes
        h'.1.noQuotes hvalue
      have he : e = e' := Prod.ext (String.toList_inj.mp hname) hvalue
      rw [he, ih h.2 h'.2 (tail_injective htail)]

namespace LdapParameters

variable (d d' : LdapParameters)

theorem mem_keys {e : String × HbaValue} (h : e ∈ d.dict.entries) :
    ∀ c ∈ e.1.toList, isNameChar c = true :=
  d.names e.1 (List.mem_map_of_mem h)

/-- Parameters are read back exactly when no text has a quote. -/
theorem readsBack_iff : d.ReadsBack ↔ d.NoQuotes := by
  rw [NoQuotes, ← lex_line_iff (fun _ => d.mem_keys) d.values, ReadsBack, readOptions,
    d.toList_dictToHbaString]
  constructor
  · intro h
    obtain ⟨tokens, htokens, h⟩ := Option.bind_eq_some_iff.mp h
    rw [htokens, mapM_splitOption h]
    rfl
  · intro h
    rw [h]
    refine mapM_splitOption_joined ?_
    intro p hp c hc
    obtain ⟨e, he, rfl⟩ := List.mem_map.mp hp
    have hchar := d.mem_keys he c hc
    simp only [isNameChar, Bool.and_eq_true, bne_iff_ne] at hchar
    exact hchar.2

theorem renderable {d : LdapParameters} (h : d.NoQuotes) : ∀ e ∈ d.dict.entries, Renderable e :=
  fun e he => ⟨d.mem_keys he, d.values e he, h e he⟩

/-- A pair of parameters is rendered unambiguously exactly when no text in
either has a double quote. -/
theorem unambiguous_iff : d.Unambiguous d' ↔ d.NoQuotes ∧ d'.NoQuotes := by
  constructor
  · intro h
    exact ⟨d.readsBack_iff.mp h.left, d'.readsBack_iff.mp h.right⟩
  · rintro ⟨h, h'⟩
    refine ⟨fun heq => ?_, d.readsBack_iff.mpr h, d'.readsBack_iff.mpr h'⟩
    have hline := congrArg String.toList heq
    rw [d.toList_dictToHbaString, d'.toList_dictToHbaString] at hline
    exact Dict.entries_injective (line_injective (renderable h) (renderable h') hline)

end LdapParameters

/-! ## two dictionaries that are rendered alike -/

/-- The password closes its own quotes and sets the server. -/
def injectedPassword : LdapParameters where
  dict := ⟨[("ldapbindpasswd", .text "x\" ldapurl=\"y"), ("ldapurl", .text "z")], by decide⟩
  names := names_of_all (by decide)
  values := by simp

def injectedUrl : LdapParameters where
  dict := ⟨[("ldapbindpasswd", .text "x"), ("ldapurl", .text "y\" ldapurl=\"z")], by decide⟩
  names := names_of_all (by decide)
  values := by simp

/-- Their keys are the same, and so is the text they are rendered to. -/
theorem not_unambiguous_injected :
    ¬∀ d d' : LdapParameters, d.dict.keys = d'.dict.keys → d.Unambiguous d' := by
  intro h
  have hsame : dictToHbaString injectedPassword.dict = dictToHbaString injectedUrl.dict := by
    decide
  have hentries := congrArg Dict.entries ((h injectedPassword injectedUrl rfl).injective hsame)
  revert hentries
  decide

end PostgresqlK8s.Hba

import PostgresqlK8s.Backups.Repository
import PostgresqlK8s.Lib.Quoting
import PostgresqlK8s.Lib.Template
import Mathlib.Data.List.Infix
import Mathlib.Data.List.TakeWhile

/-!
# Database.UserPassword

The change of a user's password.  The password becomes part of a template,
whose braces psycopg2 interprets, and then of a statement, whose quotes
PostgreSQL interprets.  `ChangesExactly` says that both read it as the
password that was given.
-/

namespace PostgresqlK8s.Database

open Backups Quoting

/-! ## composing a statement -/

/-- The text of a field: the argument at the next position, or at the one that
the field names. -/
def substitute (args : List (List Char)) (autonum : Option Nat) (field : Template.Field) :
    Except PyError (List Char × Option Nat) :=
  if field.spec ≠ [] then .error (.valueError "no format specification supported by SQL")
  else if field.conversion ≠ none then .error (.valueError "no format conversion supported by SQL")
  else if field.name = [] then
    match autonum with
    | none =>
        .error (.valueError "cannot switch from manual field numbering to automatic field numbering")
    | some n =>
        match args[n]? with
        | some arg => .ok (arg, some (n + 1))
        | none => .error .indexError
  else if field.name.all Char.isDigit then
    match autonum with
    | some (_ + 1) =>
        .error (.valueError "cannot switch from automatic field numbering to manual field numbering")
    | _ =>
        match args[Nat.ofDigitChars 10 field.name 0]? with
        | some arg => .ok (arg, none)
        | none => .error .indexError
  else .error (.other "KeyError")

/-- The text of a template, with the arguments in the places of its fields. -/
def compose (args : List (List Char)) (autonum : Option Nat) :
    List Char → Except PyError (List Char)
  | [] => .ok []
  | '{' :: '{' :: cs => ('{' :: ·) <$> compose args autonum cs
  | '}' :: '}' :: cs => ('}' :: ·) <$> compose args autonum cs
  | '}' :: _ => .error (.valueError "Single '\x7d' encountered in format string")
  | '{' :: cs =>
      match _h : Template.readField cs with
      | none => .error (.valueError "expected '\x7d' before end of string")
      | some (field, rest) => do
          let (text, autonum) ← substitute args autonum field
          (text ++ ·) <$> compose args autonum rest
  | c :: cs => (c :: ·) <$> compose args autonum cs
termination_by cs => cs.length
decreasing_by
  · exact Nat.lt_add_of_pos_right Nat.two_pos
  · exact Nat.lt_add_of_pos_right Nat.two_pos
  · exact Nat.lt_succ_of_lt (Template.length_of_readField ‹_›)
  · exact Nat.lt_succ_self cs.length

/-- psycopg2: `SQL(template).format(Identifier(name))` puts the name, in double
quotes, in the place of the fields of the template. -/
structure Psycopg2 where
  format : String → String → Except PyError String
  format_eq : ∀ template name, format template name =
    String.ofList <$> compose [quote '"' name.toList] (some 0) template.toList

/-! ## the connection -/

/-- What ends a transaction. -/
inductive Failure
  /-- `psycopg2.Error`. -/
  | database
  | updateUserPassword
  | python (e : PyError)
deriving DecidableEq, Repr

/-- The server: whether it takes a connection, and which statements it executes
after those before. -/
structure Server where
  connects : Bool
  executes : List String → String → Bool

/-- Statements reach the server one after another. -/
abbrev Session := EStateM Failure (List String)

/-- The statement as libpq takes it, which ends at the first NUL. -/
def cString (s : String) : String := String.ofList (s.toList.takeWhile (· != '\x00'))

/-- `cursor.execute`. -/
def execute (server : Server) (statement : String) : Session Unit := do
  let sent ← get
  set (sent ++ [cString statement])
  if server.executes sent (cString statement) then pure () else throw .database

def liftPython {α : Type} : Except PyError α → Session α
  | .ok a => pure a
  | .error e => throw (.python e)

/-- The template of the statement that changes a password. -/
def alterUserTemplate (password : String) : String :=
  "ALTER USER {} WITH ENCRYPTED PASSWORD '" ++ password ++ "';"

/-- The transaction of `update_user_password`. -/
def changePassword (driver : Psycopg2) (server : Server) (username password : String) :
    Session Unit := do
  if !server.connects then throw .database
  execute server "BEGIN;"
  execute server "SET LOCAL log_statement = 'none';"
  let statement ← liftPython (driver.format (alterUserTemplate password) username)
  execute server statement
  execute server "COMMIT;"

/-- `update_user_password`: errors of the database are those of the update. -/
def updateUserPassword (driver : Psycopg2) (server : Server) (username password : String) :
    Session Unit :=
  tryCatch (changePassword driver server username password) fun
    | .database => throw .updateUserPassword
    | e => throw e

/-! ## reading the statement -/

/-- The user and the password of a statement that changes a password, by the
quoting rules of SQL, if the text is one such statement. -/
def readAlterUser (statement : String) : Option (List Char × List Char) := do
  let cs ← statement.toList.dropPrefix? "ALTER USER \"".toList
  let (username, cs) ← readQuoted '"' cs
  let cs ← cs.dropPrefix? " WITH ENCRYPTED PASSWORD '".toList
  let (password, cs) ← readQuoted '\'' cs
  if cs = [';'] then return (username, password) else none

/-- The name of a user: it is not empty, and has no NUL. -/
structure UserName where
  text : String
  ne_empty : text ≠ ""
  no_nul : '\x00' ∉ text.toList

/-- What a transaction with one statement sends. -/
def transaction (statement : String) : List String :=
  ["BEGIN;", "SET LOCAL log_statement = 'none';", statement, "COMMIT;"]

/-- What reached the server when the update ended. -/
def sent (driver : Psycopg2) (server : Server) (username password : String) : List String :=
  match (updateUserPassword driver server username password).run [] with
  | .ok _ sent => sent
  | .error _ sent => sent

/-- A server that takes connections and executes every statement. -/
def Server.Healthy (server : Server) : Prop :=
  server.connects = true ∧ ∀ sent statement, server.executes sent statement = true

/-- A password is changed exactly: the update raises nothing but its own error,
and what it sends, up to the point where the server fails, is one statement
that reads as the user and the password. -/
structure ChangesExactly (driver : Psycopg2) (username : UserName) (password : String) : Prop where
  raises : ∀ server e sent,
    (updateUserPassword driver server username.text password).run [] = .error e sent →
      e = .updateUserPassword
  sends : ∃ statement,
    readAlterUser statement = some (username.text.toList, password.toList) ∧
    (∀ server, sent driver server username.text password <+: transaction statement) ∧
    ∀ server, server.Healthy →
      (updateUserPassword driver server username.text password).run [] =
        .ok () (transaction statement)

/-- Nothing in the password is interpreted. -/
def Plain (password : String) : Prop :=
  '\'' ∉ password.toList ∧ '{' ∉ password.toList ∧ '}' ∉ password.toList ∧
    '\x00' ∉ password.toList

/-! ## the template -/

/-- Neither brace occurs. -/
def NoBraces (cs : List Char) : Prop := '{' ∉ cs ∧ '}' ∉ cs

theorem compose_cons {args : List (List Char)} {autonum : Option Nat} {c : Char}
    (hopen : c ≠ '{') (hclose : c ≠ '}') (cs : List Char) :
    compose args autonum (c :: cs) = (c :: ·) <$> compose args autonum cs := by
  rw [compose]
  all_goals simp [hopen, hclose]

theorem compose_plain {args : List (List Char)} {autonum : Option Nat} {cs : List Char}
    (h : NoBraces cs) (rest : List Char) :
    compose args autonum (cs ++ rest) = (cs ++ ·) <$> compose args autonum rest := by
  induction cs with
  | nil =>
    rw [List.nil_append]
    cases compose args autonum rest <;> rfl
  | cons c cs ih =>
    obtain ⟨hopen, hclose⟩ := h
    rw [List.mem_cons, not_or] at hopen hclose
    rw [List.cons_append, compose_cons (Ne.symm hopen.1) (Ne.symm hclose.1),
      ih ⟨hopen.2, hclose.2⟩]
    cases compose args autonum rest <;> rfl

/-- An automatic field takes the argument. -/
theorem compose_field (arg cs : List Char) :
    compose [arg] (some 0) ('{' :: '}' :: cs) = (arg ++ ·) <$> compose [arg] (some 1) cs := by
  rw [compose]
  · rfl
  · simp

/-- There is no second argument. -/
theorem substitute_error (arg : List Char) (field : Template.Field) :
    ∃ e, substitute [arg] (some 1) field = .error e := by
  rw [substitute]
  split
  · exact ⟨_, rfl⟩
  · split
    · exact ⟨_, rfl⟩
    · split
      · exact ⟨_, rfl⟩
      · split
        · exact ⟨_, rfl⟩
        · exact ⟨_, rfl⟩

/-- Behind the only argument nothing is interpreted but doubled braces, and they
make the text shorter. -/
theorem length_of_compose {arg : List Char} {autonum : Option Nat} {cs out : List Char}
    (hauto : autonum = some 1) (h : compose [arg] autonum cs = .ok out) :
    out.length ≤ cs.length ∧ (out.length = cs.length → NoBraces cs ∧ out = cs) := by
  induction autonum, cs using compose.induct generalizing out with
  | case1 autonum =>
    rw [compose] at h
    cases h
    simp [NoBraces]
  | case2 autonum cs ih =>
    rw [compose] at h
    obtain ⟨out', hout, rfl⟩ := Except.map_eq_ok.mp h
    have hlt := (ih hauto hout).1
    simp only [List.length_cons]
    omega
  | case3 autonum cs ih =>
    rw [compose] at h
    obtain ⟨out', hout, rfl⟩ := Except.map_eq_ok.mp h
    have hlt := (ih hauto hout).1
    simp only [List.length_cons]
    omega
  | case4 autonum cs hcs =>
    rw [compose] at h
    · cases h
    · exact hcs
  | case5 autonum cs hcs hfield =>
    rw [compose] at h
    · rw [hfield] at h
      cases h
    · exact hcs
  | case6 autonum cs hcs field rest hfield ih =>
    rw [compose] at h
    · split at h
      · cases h
      · next field' rest' hfield' =>
        obtain ⟨e, herror⟩ := substitute_error arg field'
        rw [hauto, herror] at h
        cases h
    · exact hcs
  | case7 autonum c cs _ _ hclose hopen ih =>
    rw [compose_cons hopen hclose] at h
    obtain ⟨out', hout, rfl⟩ := Except.map_eq_ok.mp h
    obtain ⟨hle, heq⟩ := ih hauto hout
    rw [List.length_cons, List.length_cons]
    refine ⟨Nat.succ_le_succ hle, fun hlength => ?_⟩
    obtain ⟨⟨hcs, hcs'⟩, rfl⟩ := heq (Nat.succ.inj hlength)
    refine ⟨⟨?_, ?_⟩, rfl⟩
    · rw [List.mem_cons, not_or]
      exact ⟨Ne.symm hopen, hcs⟩
    · rw [List.mem_cons, not_or]
      exact ⟨Ne.symm hclose, hcs'⟩

/-! ## the statement -/

/-- What stands before the user, and between the user and the password. -/
def alterUser : List Char := "ALTER USER ".toList

def withPassword : List Char := " WITH ENCRYPTED PASSWORD '".toList

/-- The statement around what stands in the place of the password. -/
def alterUserText (username password : List Char) : List Char :=
  alterUser ++ (quote '"' username ++ (withPassword ++ (password ++ ['\'', ';'])))

theorem noBraces_append {cs cs' : List Char} :
    NoBraces (cs ++ cs') ↔ NoBraces cs ∧ NoBraces cs' := by
  simp only [NoBraces, List.mem_append, not_or]
  tauto

theorem toList_alterUserTemplate (password : String) :
    (alterUserTemplate password).toList =
      alterUser ++ '{' :: '}' :: (withPassword ++ (password.toList ++ ['\'', ';'])) := by
  have hfront : "ALTER USER {} WITH ENCRYPTED PASSWORD '".toList =
      alterUser ++ '{' :: '}' :: withPassword := by decide
  have hback : "';".toList = ['\'', ';'] := by decide
  have hsplit : (alterUserTemplate password).toList =
      "ALTER USER {} WITH ENCRYPTED PASSWORD '".toList ++ password.toList ++ "';".toList :=
    String.toList_append.trans (congrArg (· ++ "';".toList) String.toList_append)
  refine hsplit.trans ((congrArg₂ (· ++ ·) (congrArg (· ++ password.toList) hfront) hback).trans ?_)
  simp only [List.append_assoc, List.cons_append]

/-- What psycopg2 makes of the template. -/
theorem format_alterUserTemplate (driver : Psycopg2) (username password : String) :
    driver.format (alterUserTemplate password) username =
      (fun rest => String.ofList (alterUser ++ (quote '"' username.toList ++ rest))) <$>
        compose [quote '"' username.toList] (some 1)
          (withPassword ++ (password.toList ++ ['\'', ';'])) := by
  have hplain : NoBraces alterUser := ⟨by decide, by decide⟩
  rw [driver.format_eq, toList_alterUserTemplate, compose_plain hplain, compose_field]
  generalize compose [quote '"' username.toList] (some 1)
    (withPassword ++ (password.toList ++ ['\'', ';'])) = composed
  cases composed with
  | ok rest => rfl
  | error e => rfl

theorem dropPrefix?_eq_some_iff {cs front rest : List Char} :
    cs.dropPrefix? front = some rest ↔ cs = front ++ rest := by
  rw [List.dropPrefix?_eq_some_iff]
  constructor
  · rintro ⟨front', rfl, hfront⟩
    rw [eq_of_beq hfront]
  · rintro rfl
    exact ⟨front, rfl, beq_self_eq_true front⟩

/-- What is read as a change of a password is written so. -/
theorem readAlterUser_iff {statement : String} {username password : List Char} :
    readAlterUser statement = some (username, password) ↔
      statement.toList = alterUserText username (escape '\'' password) := by
  have hopen : "ALTER USER \"".toList = alterUser ++ ['"'] := by decide
  have hwith : " WITH ENCRYPTED PASSWORD '".toList = withPassword := rfl
  rw [readAlterUser, hopen, hwith]
  have htext (rest : List Char) : alterUserText username rest = alterUser ++ ['"'] ++
      (escape '"' username ++ '"' :: (withPassword ++ (rest ++ ['\'', ';']))) := by
    simp [alterUserText, quote]
  constructor
  · intro h
    obtain ⟨cs, hcs, h⟩ := Option.bind_eq_some_iff.mp h
    obtain ⟨⟨username', cs'⟩, husername, h⟩ := Option.bind_eq_some_iff.mp h
    obtain ⟨cs'', hcs'', h⟩ := Option.bind_eq_some_iff.mp h
    obtain ⟨⟨password', rest⟩, hpassword, h⟩ := Option.bind_eq_some_iff.mp h
    dsimp only at h hcs''
    split at h
    · next hrest =>
      cases h
      rw [htext, dropPrefix?_eq_some_iff.mp hcs, eq_of_readQuoted husername,
        dropPrefix?_eq_some_iff.mp hcs'', eq_of_readQuoted hpassword, hrest]
    · cases h
  · intro h
    have hhead : (withPassword ++ (escape '\'' password ++ ['\'', ';'])).head? ≠ some '"' := by
      have hspace : withPassword.head? = some ' ' := by decide
      rw [List.head?_append, hspace, Option.some_or]
      decide
    have hlast : [';'].head? ≠ some '\'' := by decide
    rw [h, htext, dropPrefix?_eq_some_iff.mpr rfl]
    change (readQuoted '"' _ >>= _) = _
    rw [readQuoted_escape username hhead]
    change (List.dropPrefix? _ _ >>= _) = _
    rw [dropPrefix?_eq_some_iff.mpr rfl]
    change (readQuoted '\'' _ >>= _) = _
    rw [readQuoted_escape password hlast]
    rfl

/-! ## the session -/

/-- A text without NUL reaches the server as it is. -/
theorem cString_of_not_mem {s : String} (h : '\x00' ∉ s.toList) : cString s = s := by
  have htake : s.toList.takeWhile (· != '\x00') = s.toList := by
    refine List.takeWhile_eq_self_iff.mpr fun c hc => ?_
    have hne : c ≠ '\x00' := by
      rintro rfl
      exact h hc
    simpa using hne
  rw [cString, htake, String.ofList_toList]

/-- A statement is sent whether or not the server executes it. -/
theorem run_execute (server : Server) (statement : String) (sent : List String) :
    (execute server statement).run sent =
      if server.executes sent (cString statement) then .ok () (sent ++ [cString statement])
      else .error .database (sent ++ [cString statement]) := by
  change (if server.executes sent (cString statement) then pure () else throw .database :
    Session Unit) (sent ++ [cString statement]) = _
  cases server.executes sent (cString statement) with
  | true => rfl
  | false => rfl

/-- A run ends with the whole transaction, or the server failed on the way. -/
def Ends (server : Server) (out : List String) (r : EStateM.Result Failure (List String) Unit) :
    Prop :=
  r = .ok () out ∨ ¬server.Healthy ∧ ∃ sent, sent <+: out ∧ r = .error .database sent

section Ends

variable {server : Server} {out sent : List String} {statement : String}

theorem ends_execute (hout : sent ++ [cString statement] = out) :
    Ends server out ((execute server statement).run sent) := by
  rw [run_execute, hout]
  cases h : server.executes sent (cString statement) with
  | true => exact .inl rfl
  | false =>
    refine .inr ⟨fun hhealthy => ?_, out, List.prefix_rfl, rfl⟩
    rw [hhealthy.2] at h
    cases h

theorem ends_execute_bind {k : Unit → Session Unit} (hout : sent ++ [cString statement] <+: out)
    (hk : Ends server out ((k ()).run (sent ++ [cString statement]))) :
    Ends server out ((execute server statement >>= k).run sent) := by
  have hrun := run_execute server statement sent
  cases h : server.executes sent (cString statement) with
  | true =>
    rw [h, if_pos rfl] at hrun
    rw [EStateM.run_bind_of_ok hrun]
    exact hk
  | false =>
    rw [h, if_neg Bool.false_ne_true] at hrun
    rw [EStateM.run_bind_of_error hrun]
    refine .inr ⟨fun hhealthy => ?_, _, hout, rfl⟩
    rw [hhealthy.2] at h
    cases h

/-- The transaction, where the template is composed. -/
theorem ends_changePassword {driver : Psycopg2} {username password : String}
    (h : driver.format (alterUserTemplate password) username = .ok statement) :
    Ends server (transaction (cString statement))
      ((changePassword driver server username password).run []) := by
  have hbegin : cString "BEGIN;" = "BEGIN;" := rfl
  have hset : cString "SET LOCAL log_statement = 'none';" = "SET LOCAL log_statement = 'none';" :=
    rfl
  have hcommit : cString "COMMIT;" = "COMMIT;" := rfl
  rw [changePassword, h]
  cases hconnects : server.connects with
  | false =>
    refine .inr ⟨fun hhealthy => ?_, [], List.nil_prefix, rfl⟩
    rw [hhealthy.1] at hconnects
    cases hconnects
  | true =>
    simp only [Bool.not_true, Bool.false_eq_true, if_false]
    refine ends_execute_bind ⟨_, rfl⟩ (ends_execute_bind ⟨_, rfl⟩ ?_)
    change Ends server _ ((execute server statement >>= fun _ => execute server "COMMIT;").run _)
    exact ends_execute_bind ⟨_, rfl⟩ (ends_execute rfl)

end Ends

/-- What `update_user_password` makes of the failures of its transaction. -/
theorem run_updateUserPassword (driver : Psycopg2) (server : Server) (username password : String) :
    (updateUserPassword driver server username password).run [] =
      match (changePassword driver server username password).run [] with
      | .error .database sent => .error .updateUserPassword sent
      | r => r := by
  cases h : (changePassword driver server username password).run [] with
  | ok u sent =>
    change (EStateM.tryCatch (changePassword driver server username password) _) [] = _
    unfold EStateM.tryCatch
    rw [show changePassword driver server username password [] = .ok u sent from h]
  | error e sent =>
    change (EStateM.tryCatch (changePassword driver server username password) _) [] = _
    unfold EStateM.tryCatch
    rw [show changePassword driver server username password [] = .error e sent from h]
    cases e with
    | database => rfl
    | updateUserPassword => rfl
    | python e => rfl

/-- The update, where the template is composed. -/
theorem run_updateUserPassword_of_ok {driver : Psycopg2} {username password statement : String}
    (h : driver.format (alterUserTemplate password) username = .ok statement) (server : Server) :
    (updateUserPassword driver server username password).run [] =
        .ok () (transaction (cString statement)) ∨
      ¬server.Healthy ∧ ∃ sent, sent <+: transaction (cString statement) ∧
        (updateUserPassword driver server username password).run [] =
          .error .updateUserPassword sent := by
  rw [run_updateUserPassword]
  have hends := @ends_changePassword server statement driver username password h
  rcases hends with hok | ⟨hfailed, sent, hsent, herror⟩
  · rw [hok]
    exact .inl rfl
  · rw [herror]
    exact .inr ⟨hfailed, sent, hsent, rfl⟩

/-- A server that takes everything. -/
def healthy : Server := ⟨true, fun _ _ => true⟩

theorem healthy_healthy : healthy.Healthy := ⟨rfl, fun _ _ => rfl⟩

/-- Where the template is not composed a healthy server gets no statement. -/
theorem run_updateUserPassword_of_error {driver : Psycopg2} {username password : String}
    {e : PyError} (h : driver.format (alterUserTemplate password) username = .error e) :
    (updateUserPassword driver healthy username password).run [] =
      .error (.python e) ["BEGIN;", "SET LOCAL log_statement = 'none';"] := by
  have hrun : (changePassword driver healthy username password).run [] =
      .error (.python e) ["BEGIN;", "SET LOCAL log_statement = 'none';"] := by
    rw [changePassword, h]
    rfl
  rw [run_updateUserPassword, hrun]

/-! ## when a password is changed exactly -/

theorem nul_not_mem_escape {q : Char} (hq : q ≠ '\x00') {cs : List Char} :
    '\x00' ∈ escape q cs ↔ '\x00' ∈ cs := by
  induction cs with
  | nil => rfl
  | cons c cs ih =>
    by_cases hc : c = q
    · rw [hc, escape_cons_self]
      simp [ih, Ne.symm hq]
    · rw [escape_cons_of_ne hc, List.mem_cons, List.mem_cons, ih]

theorem length_cString_le (s : String) : (cString s).toList.length ≤ s.toList.length := by
  rw [cString, String.toList_ofList]
  exact (List.takeWhile_prefix _).length_le

theorem eq_of_length_cString {s : String} (h : (cString s).toList.length = s.toList.length) :
    '\x00' ∉ s.toList := by
  rw [cString, String.toList_ofList] at h
  have heq := (List.takeWhile_prefix (· != '\x00')).eq_of_length h
  intro hmem
  rw [← heq] at hmem
  have hne := List.mem_takeWhile_imp hmem
  simp at hne

section Composed

variable {driver : Psycopg2} {username : UserName} {password : String}

/-- A password in which nothing is interpreted is where the statement has it. -/
theorem format_of_plain (driver : Psycopg2) (username : UserName) (h : Plain password) :
    driver.format (alterUserTemplate password) username.text =
      .ok (String.ofList (alterUserText username.text.toList password.toList)) := by
  obtain ⟨-, hopen, hclose, -⟩ := h
  have hwith : NoBraces withPassword := ⟨by decide, by decide⟩
  have hend : NoBraces ['\'', ';'] := ⟨by decide, by decide⟩
  have hplain : NoBraces (withPassword ++ (password.toList ++ ['\'', ';'])) := by
    rw [noBraces_append, noBraces_append]
    exact ⟨hwith, ⟨hopen, hclose⟩, hend⟩
  have hcomposed : compose [quote '"' username.text.toList] (some 1)
      (withPassword ++ (password.toList ++ ['\'', ';']) ++ []) = _ := compose_plain hplain []
  rw [List.append_nil] at hcomposed
  rw [format_alterUserTemplate, hcomposed, compose]
  simp [alterUserText, Functor.map, Except.map]

theorem cString_alterUserText (username : UserName) (h : Plain password) :
    cString (String.ofList (alterUserText username.text.toList password.toList)) =
      String.ofList (alterUserText username.text.toList password.toList) := by
  refine cString_of_not_mem ?_
  have halter : '\x00' ∉ alterUser := by decide
  have hwith : '\x00' ∉ withPassword := by decide
  have hname : '\x00' ∉ escape '"' username.text.toList := by
    rw [nul_not_mem_escape (by decide)]
    exact username.no_nul
  rw [String.toList_ofList]
  simp [alterUserText, quote, halter, hwith, hname, h.2.2.2]

/-- A statement that reads as the password has interpreted nothing of it. -/
theorem plain_of_read {rest : List Char}
    (hcomposed : compose [quote '"' username.text.toList] (some 1)
      (withPassword ++ (password.toList ++ ['\'', ';'])) = .ok rest)
    (hread : readAlterUser (cString (String.ofList
      (alterUser ++ (quote '"' username.text.toList ++ rest)))) =
        some (username.text.toList, password.toList)) : Plain password := by
  have htext := congrArg List.length (readAlterUser_iff.mp hread)
  have hsent := length_cString_le (String.ofList
    (alterUser ++ (quote '"' username.text.toList ++ rest)))
  obtain ⟨hle, heq⟩ := length_of_compose rfl hcomposed
  rw [htext] at hsent
  simp only [alterUserText, String.toList_ofList, List.length_append, length_escape] at hsent hle heq
  have hcount : password.toList.count '\'' = 0 := by omega
  obtain ⟨hbraces, rfl⟩ := heq (by omega)
  rw [noBraces_append, noBraces_append] at hbraces
  have hnul : '\x00' ∉ (String.ofList (alterUser ++ (quote '"' username.text.toList ++
      (withPassword ++ (password.toList ++ ['\'', ';']))))).toList := by
    refine eq_of_length_cString ?_
    rw [htext]
    simp only [alterUserText, String.toList_ofList, List.length_append, length_escape]
    omega
  refine ⟨List.count_eq_zero.mp hcount, hbraces.2.1.1, hbraces.2.1.2, fun hmem => hnul ?_⟩
  rw [String.toList_ofList]
  simp [hmem]

/-- What a healthy server gets tells that nothing is interpreted. -/
theorem plain_of_changesExactly (h : ChangesExactly driver username password) :
    Plain password := by
  obtain ⟨statement, hread, -, hhealthy⟩ := h.sends
  have hrun := hhealthy healthy healthy_healthy
  have hformat := format_alterUserTemplate driver username.text password
  cases hcomposed : compose [quote '"' username.text.toList] (some 1)
      (withPassword ++ (password.toList ++ ['\'', ';'])) with
  | error e =>
    rw [hcomposed] at hformat
    rw [run_updateUserPassword_of_error hformat] at hrun
    cases hrun
  | ok rest =>
    rw [hcomposed] at hformat
    rcases run_updateUserPassword_of_ok hformat healthy with hok | ⟨hfailed, -⟩
    · rw [hok, EStateM.Result.ok.injEq] at hrun
      have hstatement := List.cons.inj (List.cons.inj (List.cons.inj hrun.2).2).2
      rw [← hstatement.1] at hread
      exact plain_of_read hcomposed hread
    · exact absurd healthy_healthy hfailed

end Composed

/-- A password is changed exactly when nothing in it is interpreted. -/
theorem changesExactly_iff (driver : Psycopg2) (username : UserName) (password : String) :
    ChangesExactly driver username password ↔ Plain password := by
  constructor
  · exact plain_of_changesExactly
  · intro h
    have hrun := run_updateUserPassword_of_ok (format_of_plain driver username h)
    have hstatement := cString_alterUserText username h
    rw [hstatement] at hrun
    refine ⟨?_, String.ofList (alterUserText username.text.toList password.toList), ?_, ?_, ?_⟩
    · intro server e sent herror
      rcases hrun server with hok | ⟨-, sent', -, herror'⟩
      · rw [hok] at herror
        cases herror
      · rw [herror'] at herror
        cases herror
        rfl
    · rw [readAlterUser_iff, String.toList_ofList, escape_of_not_mem h.1]
    · intro server
      rw [sent]
      rcases hrun server with hok | ⟨-, sent', hprefix, herror⟩
      · rw [hok]
      · rw [herror]
        exact hprefix
    · intro server hhealthy
      exact (hrun server).resolve_right fun hfailed => hfailed.1 hhealthy

/-! ## a password with a quote -/

/-- psycopg2 as it is documented. -/
def psycopg2 : Psycopg2 where
  format template name := String.ofList <$> compose [quote '"' name.toList] (some 0) template.toList
  format_eq _ _ := rfl

/-- A statement with the password `'` reads as no change of a password. -/
theorem not_changesExactly_quote :
    ¬∀ (driver : Psycopg2) (username : UserName) (password : String),
      ChangesExactly driver username password := by
  intro h
  have hplain := plain_of_changesExactly (h psycopg2 ⟨"operator", by decide, by decide⟩ "'")
  exact hplain.1 (by decide)

end PostgresqlK8s.Database

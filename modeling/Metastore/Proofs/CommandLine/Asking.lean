import Metastore.CommandLine
import Metastore.Proofs.Action
import Metastore.Proofs.Text.Split

/-!
# Asking for commands

Every command can be asked for with any configuration and any list of changes: attached to its option, each
text is read as it is (`CommandLine.exists_read`).
-/

namespace Metastore.CommandLine

/-- The word of an option with its argument attached. -/
def attached (option text : String) : String := option ++ "=" ++ text

variable {option : String} {words : List String}

/-- A long option is told from its argument. -/
lemma cutAt_attached {given : String} {rest : List Char} (hgiven : given.toList = '-' :: '-' :: rest)
    (hplain : '=' ∉ given.toList) (text : String) :
    ∃ more, (attached given text).toList = '-' :: '-' :: more ∧
      Text.cutAt '=' ('-' :: '-' :: more) = (given.toList, some text.toList) := by
  refine ⟨rest ++ '=' :: text.toList, by simp [attached, hgiven], ?_⟩
  rw [← Text.cutAt_append_cons hplain, hgiven]
  rfl

/-- An option with its argument attached, where it is the option of the command. -/
lemma roleOf_attached {given : String} {rest : List Char} (hgiven : given.toList = '-' :: '-' :: rest)
    (hplain : '=' ∉ given.toList) {text : String} {role : Role}
    (hroles : longRoles option given.toList (some text) = [role]) :
    roleOf option (attached given text) = .ok role := by
  obtain ⟨more, hword, hcut⟩ := cutAt_attached hgiven hplain text
  rw [roleOf, hword]
  simp only [hcut, Option.map_some, String.ofList_toList, hroles]

/-- An option with its argument attached, where it is no option of the command. -/
lemma exists_roleOf_attached {given : String} {rest : List Char}
    (hgiven : given.toList = '-' :: '-' :: rest) (hplain : '=' ∉ given.toList) {text : String}
    (hroles : longRoles option given.toList (some text) = []) :
    ∃ role, roleOf option (attached given text) = .ok role := by
  obtain ⟨more, hword, hcut⟩ := cutAt_attached hgiven hplain text
  rw [roleOf, hword]
  simp only [hcut, Option.map_some, String.ofList_toList, hroles]
  exact ⟨_, rfl⟩

lemma attached_ne_divider {given : String} (h : 2 ≤ given.length) (text : String) :
    attached given text ≠ dividerWord := by
  intro heq
  have hequal : (1 : Nat) = "=".length := rfl
  have hlength : given.length + "=".length + text.length = 2 := by
    rw [← String.length_append, ← String.length_append]
    exact congrArg String.length heq
  omega

/-- Words other than the divider have the roles that they have one by one. -/
lemma wordsOf_cons {word : String} {role : Role} (hword : word ≠ dividerWord)
    (hrole : roleOf option word = .ok role) {more : List Word} (hmore : wordsOf option words = .ok more) :
    wordsOf option (word :: words) = .ok (⟨role, word⟩ :: more) := by
  rw [wordsOf, if_neg hword, hrole, hmore]
  rfl

/-- Changes that are attached to their options are read in turn. -/
lemma readOverrides_attached (texts : List String) :
    ∃ more, wordsOf settingOption (texts.map (attached settingOption)) = .ok more ∧
      readOverrides false more = .ok (texts, false) := by
  induction texts with
  | nil => exact ⟨[], rfl, rfl⟩
  | cons text rest ih =>
    obtain ⟨more, hmore, hread⟩ := ih
    have hrole : roleOf settingOption (attached settingOption text) = .ok (.setting (some text)) :=
      roleOf_attached rfl (by decide) rfl
    refine ⟨_, wordsOf_cons (attached_ne_divider (by decide) text) hrole hmore, ?_⟩
    rw [readOverrides, hread]
    rfl

/-- To the program itself, the options of a command are words like others. -/
lemma wordsOf_configOption (texts : List String) :
    ∃ more, wordsOf configOption (texts.map (attached settingOption)) = .ok more ∧
      more.map (·.text) = texts.map (attached settingOption) := by
  induction texts with
  | nil => exact ⟨[], rfl, rfl⟩
  | cons text rest ih =>
    obtain ⟨more, hmore, htexts⟩ := ih
    obtain ⟨role, hrole⟩ : ∃ role, roleOf configOption (attached settingOption text) = .ok role :=
      exists_roleOf_attached rfl (by decide) rfl
    refine ⟨_, wordsOf_cons (attached_ne_divider (by decide) text) hrole hmore, ?_⟩
    rw [List.map_cons, htexts, List.map_cons]

/-- What is read of words, put together. -/
lemma read_of_parts {opened more : List Word} {opening : Opening} {command : Command}
    {texts : List String} (hwords : wordsOf configOption words = .ok opened)
    (hopening : readOpening none false opened = .ok opening)
    (hname : Command.named? opening.name = some command)
    (hmore : wordsOf settingOption opening.rest = .ok more)
    (hread : readOverrides opening.stray more = .ok (texts, false)) :
    Invocation.read words = .ok ⟨opening.config, command, texts⟩ := by
  refine except_bind_eq_ok.mpr ⟨opened, hwords, except_bind_eq_ok.mpr ⟨opening, hopening, ?_⟩⟩
  rw [hname]
  exact except_bind_eq_ok.mpr ⟨more, hmore, except_bind_eq_ok.mpr ⟨(texts, false), hread, rfl⟩⟩

/-- Every configuration, command and list of changes can be asked for. -/
lemma exists_read (invocation : Invocation) :
    ∃ words, Invocation.read words = .ok invocation := by
  obtain ⟨path, command, texts⟩ := invocation
  obtain ⟨name, hname, hrole, hword⟩ : ∃ name, Command.named? name = some command ∧
      roleOf configOption name = .ok .argument ∧ name ≠ dividerWord := by
    cases command with
    | check => exact ⟨"check", rfl, rfl, by decide⟩
    | showConfig => exact ⟨"show-config", rfl, rfl, by decide⟩
  obtain ⟨opened, hopened, htexts⟩ := wordsOf_configOption texts
  obtain ⟨more, hmore, hread⟩ := readOverrides_attached texts
  rw [← htexts] at hmore
  have hcommand := wordsOf_cons hword hrole hopened
  cases path with
  | none => exact ⟨_, read_of_parts hcommand rfl hname hmore hread⟩
  | some path =>
    have hpath : roleOf configOption (attached configOption path) = .ok (.setting (some path)) :=
      roleOf_attached rfl (by decide) rfl
    have hwhole := wordsOf_cons (attached_ne_divider (by decide) path) hpath hcommand
    exact ⟨_, read_of_parts hwhole rfl hname hmore hread⟩

end Metastore.CommandLine

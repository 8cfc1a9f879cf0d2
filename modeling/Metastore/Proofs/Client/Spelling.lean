import Metastore.Proofs.Backend
import Metastore.Proofs.Client.Building
import Metastore.Proofs.Value.Keyed

/-!
# How a kind is spelled

Settings that spell the kind of backend alike describe the same client. It is created for both of them or for
neither, and then both are refused for the same reason, in which the kind is named as it was spelled
(`Client.created_alike`).
-/

namespace Metastore

/-- Whether two problems are of one kind: the same, or both about settings, about credentials, or stated in words
of the library. -/
def Problem.SameKind : Problem → Problem → Prop
  | .config _, .config _ => True
  | .auth _, .auth _ => True
  | .general _, .general _ => True
  | p, q => p = q

lemma Problem.SameKind.refl (p : Problem) : p.SameKind p := by
  cases p <;> simp [SameKind]

/-- Whether settings are refused for both of two names of a client, with problems of one kind, or for neither. -/
lemma Setting.requireSigning_cases (client other : String) (endpoint region serviceName : Value) :
    (requireSigning client endpoint region serviceName = .ok () ∧
        requireSigning other endpoint region serviceName = .ok ()) ∨
      ∃ p q, requireSigning client endpoint region serviceName = .error p ∧
        requireSigning other endpoint region serviceName = .error q ∧ p.SameKind q := by
  rw [requireSigning, requireSigning]
  split
  · exact .inr ⟨_, _, rfl, rfl, trivial⟩
  · split
    · exact .inl ⟨rfl, rfl⟩
    · exact .inr ⟨_, _, rfl, rfl, trivial⟩

namespace Client

variable {settings : Mapping} {s t : String} {backend : Backend}

/-- The settings with the kind of backend spelled in some way. -/
def withKind (settings : Mapping) (s : String) : Mapping := settings.setText Setting.kind (.text s)

@[simp] lemma getText_withKind_kind (settings : Mapping) (s : String) :
    (withKind settings s).getText Setting.kind = .text s := by
  rw [withKind, Mapping.getText_eq, Mapping.getText?_setText, Option.getD_some]

lemma getText_withKind {name : String} (h : Setting.kind ≠ name) (settings : Mapping) (s : String) :
    (withKind settings s).getText name = settings.getText name := by
  rw [withKind, Mapping.getText_eq, Mapping.getText?_setText_of_ne _ _ h, Mapping.getText_eq]

/-- All other settings are read as before. -/
lemma readAs_withKind (backend : Backend) (settings : Mapping) (s : String) :
    readAs backend (withKind settings s) = readAs backend settings := by
  simp (disch := decide) only [readAs, getText_withKind]

/-- Whether two outcomes are alike: the same was made, with the same services but for what was logged, or
problems of one kind stood in the way, with the same services. -/
inductive CreatedAlike {α : Type} :
    Except Problem α × Privileged Services → Except Problem α × Privileged Services → Prop
  | created (a : α) (after : Privileged Services) (log : List Notice) :
    CreatedAlike (.ok a, after) (.ok a, { after with state := { after.state with log } })
  | refused {p q : Problem} (hkind : p.SameKind q) (after : Privileged Services) :
    CreatedAlike (.error p, after) (.error q, after)

namespace CreatedAlike

variable {α β : Type}

lemma refl (outcome : Except Problem α × Privileged Services) : CreatedAlike outcome outcome := by
  obtain ⟨problem | a, after⟩ := outcome
  · exact .refused (.refl problem) after
  · exact .created a after after.state.log

lemma map {action other : Setup α} {begin : Privileged Services} (h : CreatedAlike (action begin) (other begin))
    (f : α → β) :
    CreatedAlike ((action >>= fun a => pure (f a)) begin) ((other >>= fun a => pure (f a)) begin) := by
  rw [Action.bind_apply, Action.bind_apply]
  generalize action begin = outcome, other begin = outcome' at h
  cases h with
  | created a after log => exact .created (f a) after log
  | refused hkind after => exact .refused hkind after

/-- What comes after settings were checked may be anything that does not depend on how they name the client. -/
lemma of_requireSigning (client other : String) (endpoint region serviceName : Value) (next : Unit → Setup α)
    (begin : Privileged Services) :
    CreatedAlike
      (((liftM (Setting.requireSigning client endpoint region serviceName) : Setup Unit) >>= next) begin)
      (((liftM (Setting.requireSigning other endpoint region serviceName) : Setup Unit) >>= next) begin) := by
  rw [Action.bind_apply, Action.bind_apply, Action.lift_apply, Action.lift_apply]
  rcases Setting.requireSigning_cases client other endpoint region serviceName with
    ⟨hfirst, hsecond⟩ | ⟨p, q, hfirst, hsecond, hkind⟩
  · rw [hfirst, hsecond]
    exact refl _
  · rw [hfirst, hsecond]
    exact refused hkind begin

end CreatedAlike

/-- Apart from how the kind is named in what is logged and refused, its spelling is not read. -/
lemma createOpening_withKind (hs : Backend.ofSetting (.text s) = .ok backend)
    (opening : Setup Credentials.ChainRef) (around : Surroundings) (settings : Mapping)
    (begin : Privileged Services) :
    createOpening opening around (withKind settings s) begin =
      (createDelegate opening around (.text s) (readAs backend settings) >>= fun delegate => pure
        ({ delegate, multiTenancy := (readAs backend settings).multiTenancy } : Client)) begin := by
  have hkind : Backend.ofSetting ((withKind settings s).getText Setting.kind) = .ok backend := by
    rwa [getText_withKind_kind]
  have hopening := @createOpening_of_kind opening around _ _ hkind begin
  rw [readAs_withKind, getText_withKind_kind] at hopening
  exact hopening

/-- Spellings of one kind come out alike. -/
lemma createdAlike_of_kind (hs : Backend.ofSetting (.text s) = .ok backend)
    (ht : Backend.ofSetting (.text t) = .ok backend) (opening : Setup Credentials.ChainRef)
    (around : Surroundings) (settings : Mapping) (begin : Privileged Services) :
    CreatedAlike (createOpening opening around (withKind settings s) begin)
      (createOpening opening around (withKind settings t) begin) := by
  rw [createOpening_withKind hs, createOpening_withKind ht]
  apply CreatedAlike.map
  cases backend with
  | «local» =>
    rw [createDelegate_of_local rfl, createDelegate_of_local rfl]
    exact .created _ _ _
  | remote => exact .refl _
  | cloud => exact .of_requireSigning _ _ _ _ _ _ _
  | keyValue => exact .of_requireSigning _ _ _ _ _ _ _

/-- Of two spellings that differ in separators and in the case of ASCII letters only, the same kind of backend
is selected, and the client is created for both, the same, or for neither, with problems of one kind. -/
theorem created_alike (h : Backend.SpelledAlike s t) (opening : Setup Credentials.ChainRef)
    (around : Surroundings) (settings : Mapping) (begin : Privileged Services) :
    (∃ backend, Backend.ofSetting (.text s) = .ok backend ∧ Backend.ofSetting (.text t) = .ok backend) ∧
      CreatedAlike (createOpening opening around (withKind settings s) begin)
        (createOpening opening around (withKind settings t) begin) := by
  have hs : Backend.ofSetting (.text s) = .ok ((Backend.ofSpelling? s).getD .local) := rfl
  have ht : Backend.ofSetting (.text t) = .ok ((Backend.ofSpelling? s).getD .local) := by
    rw [Backend.ofSpelling?_congr h]
    rfl
  exact ⟨⟨_, hs, ht⟩, createdAlike_of_kind hs ht opening around settings begin⟩

/-- A table service with a region missing, spelled in two ways: refused twice, with the names as they were
spelled. -/
theorem created_alike_of_separators :
    let settings : Mapping := [(.text "endpoint", .text "https://h")]
    let create := fun s => createOpening (takeChain (.ok { sources := [] })) {} (withKind settings s) ⟨false, {}⟩
    Backend.SpelledAlike "AWS-Dynamo_DB " "awsdynamodb" ∧
      CreatedAlike (create "AWS-Dynamo_DB ") (create "awsdynamodb") ∧
      (create "AWS-Dynamo_DB ").1 = .error (.config (.endpointAndRegionRequired "AWS-Dynamo_DB ")) ∧
      (create "awsdynamodb").1 = .error (.config (.endpointAndRegionRequired "awsdynamodb")) := by
  intro settings create
  have halike : Backend.SpelledAlike "AWS-Dynamo_DB " "awsdynamodb" := by
    decide +kernel
  exact ⟨halike, (created_alike halike _ _ _ _).2, by decide +kernel, by decide +kernel⟩

end Client
end Metastore

import CameraTelemetry.Proofs.Camera.Likeness
import CameraTelemetry.Proofs.Json.Beginning

/-!
# Files that differ in the password

Two files whose passwords are both texts yield credentials of the same user. If the passwords are
both arrays, or both objects, the files are given up at the bracket, before they differ, and the
message tells only of the bracket. A number or a truth value, though, is shown in the message as it
stands.
-/
namespace CameraTelemetry.Camera

open Json

variable {P : String → String → Prop}

/-- The same member of an object, up to a password that is a text. -/
inductive MemberAlike (P : String → String → Prop) :
    Option String × Tree → Option String × Tree → Prop
  | same {name : Option String} (t : Tree) (other : name ≠ some "password") :
    MemberAlike P (name, t) (name, t)
  | password {s s' : String} (stands : P s s') :
    MemberAlike P (some "password", .string (some s)) (some "password", .string (some s'))

/-- Two texts that hold the same object, up to the password. -/
def TextsAlike (P : String → String → Prop) (text text' : String) : Prop :=
  ∃ members members' broken trailing, List.Forall₂ (MemberAlike P) members members' ∧
    readDocument text = (.object members broken, trailing) ∧
      readDocument text' = (.object members' broken, trailing)

/-- Two files that are the same up to the password. -/
inductive FilesAlike (P : String → String → Prop) : FileText → FileText → Prop
  /-- Both hold credentials. -/
  | texts {text text' : String} {c : Credentials} (alike : TextsAlike P text text')
    (usable : decodeText Credentials.decode text = .ok c) : FilesAlike P (.ok text) (.ok text')
  /-- Before they differ, both have a value of another kind than expected. -/
  | refused {front found expected : String}
    (certain : Certain Credentials.decode front (.wrongType found expected)) (rest rest' : String) :
    FilesAlike P (.ok (front ++ rest)) (.ok (front ++ rest'))
  /-- Both are one text that holds no credentials. -/
  | useless {text : String} {fault : Fault}
    (failed : decodeText Credentials.decode text = .error fault) :
    FilesAlike P (.ok text) (.ok text)
  | unread (fault : FileFault) : FilesAlike P (.error fault) (.error fault)

def pair (username : String) (password : Tree) : List (Option String × Tree) :=
  [(some "username", .string (some username)), (some "password", password)]

theorem decode_pair (username s : String) :
    Credentials.decode (.object (pair username (.string (some s))) none) = .ok ⟨username, s⟩ := rfl

/-- Two files with a text for the password, however it is spelled and whatever stands between. -/
theorem FilesAlike.of_texts {text text' username s s' : String} (stands : P s s')
    (holds : Holds (.object (pair username (.string (some s))) none) text)
    (holds' : Holds (.object (pair username (.string (some s'))) none) text') :
    FilesAlike P (.ok text) (.ok text') := by
  have alike : TextsAlike P text text' :=
    ⟨_, _, none, none, .cons (.same _ (by decide)) (.cons (.password stands) .nil),
      readDocument_holds holds, readDocument_holds holds'⟩
  exact .texts alike ((decodeText_holds holds).trans (decode_pair username s))

/-- Two files with an array for the password, or with an object in both, however they go on. -/
theorem FilesAlike.of_brackets {front username kind : String} {bracket : Char}
    (begins : Begins [(some "username", .string (some username))] "password" bracket front.toList)
    (opens : Bracket bracket kind) (rest rest' : String) :
    FilesAlike P (.ok (front ++ rest)) (.ok (front ++ rest')) := by
  have certain : Certain Credentials.decode front (.wrongType kind "a string") := by
    refine certain_of_decode fun rest => ?_
    have refused := @Begins.decodeStruct ["username", "password"] "Credentials" _ _ _ _ _
      [("username", username)] begins opens rfl (by simp) rfl rest
    simp only [Credentials.decode, refused]
  exact .refused certain rest rest'

/-- Credentials of the same user, with passwords of which the one stands for the other. -/
structure Counterparts (P : String → String → Prop) (c c' : Credentials) : Prop where
  username : c.username = c'.username
  password : P c.password c'.password

theorem Counterparts.shown {c c' : Credentials} (counterparts : Counterparts P c c') :
    c.shown = c'.shown := by
  unfold Credentials.shown
  rw [counterparts.username]

/-! ## Reading -/

/-- Both fail in the same way, or both bring what is related. -/
inductive Together {α : Type} (S : α → α → Prop) : Except Fault α → Except Fault α → Prop
  | failed (e : Fault) : Together S (.error e) (.error e)
  | ok {a a' : α} (related : S a a') : Together S (.ok a) (.ok a')

/-- The same fields were found, with the same values but for the password. -/
structure FoundAlike (P : String → String → Prop) (found found' : Found String) : Prop where
  password : Option.Rel P (found.get? "password") (found'.get? "password")
  others : ∀ name, name ≠ "password" → found.get? name = found'.get? name

theorem FoundAlike.isSome {found found' : Found String} (alike : FoundAlike P found found')
    (name : String) : (found.get? name).isSome = (found'.get? name).isSome := by
  by_cases password : name = "password"
  · have both := alike.password
    rw [password]
    generalize found.get? "password" = x, found'.get? "password" = x' at both
    cases both <;> rfl
  · rw [alike.others name password]

theorem get?_append_singleton (found : Found String) (name value n : String) :
    (found ++ [(name, value)] : Found String).get? n =
      (found.get? n).or (if name = n then some value else none) := by
  simp only [Found.get?, List.find?_append, List.find?_singleton]
  cases found.find? (fun entry => entry.1 == n) with
  | some entry => simp
  | none => by_cases same : name = n <;> simp [same]

theorem FoundAlike.other {found found' : Found String} (alike : FoundAlike P found found')
    {name : String} (value : String) (other : name ≠ "password") :
    FoundAlike P (found ++ [(name, value)]) (found' ++ [(name, value)]) where
  password := by
    simpa only [get?_append_singleton, other, if_false, Option.or_none] using alike.password
  others := fun n otherN => by simp only [get?_append_singleton, alike.others n otherN]

theorem FoundAlike.extend {found found' : Found String} (alike : FoundAlike P found found')
    {value value' : String} (stands : P value value') :
    FoundAlike P (found ++ [("password", value)]) (found' ++ [("password", value')]) where
  password := by
    have both := alike.password
    simp only [get?_append_singleton, if_true]
    generalize found.get? "password" = x, found'.get? "password" = x' at both
    cases both with
    | some same => exact .some same
    | none => exact .some stands
  others := fun n other => by
    simp only [get?_append_singleton, alike.others n other, if_neg other.symm]

/-- Objects that are the same up to the password are read alike. -/
theorem decodeMembers_alike (fields : List String) (known : "password" ∈ fields)
    (broken : Option BreakPoint) {members members' : List (Option String × Tree)}
    (alike : List.Forall₂ (MemberAlike P) members members') {found found' : Found String}
    (before : FoundAlike P found found') :
    Together (FoundAlike P) (decodeMembers fields decodeString broken found members)
      (decodeMembers fields decodeString broken found' members') := by
  induction alike generalizing found found' with
  | nil =>
    cases broken with
    | none => exact .ok before
    | some b => exact .failed _
  | cons first later ih =>
    cases first with
    | @same name t other =>
      cases name with
      | none => exact .failed _
      | some name =>
        have other : name ≠ "password" := fun same => other (congrArg some same)
        simp only [decodeMembers, before.isSome name]
        split
        · split
          · exact .failed _
          · cases decodeString t with
            | error e => exact .failed e
            | ok s => exact ih (before.other s other)
        · split
          · exact .failed _
          · exact ih before
    | password stands =>
      simp only [decodeMembers, decodeString, before.isSome "password",
        List.contains_iff_mem.2 known, if_true]
      split
      · exact .failed _
      · exact ih (before.extend stands)

theorem decode_alike {members members' : List (Option String × Tree)} (broken : Option BreakPoint)
    (alike : List.Forall₂ (MemberAlike P) members members') :
    Together (Counterparts P) (Credentials.decode (.object members broken))
      (Credentials.decode (.object members' broken)) := by
  have nothing : FoundAlike P [] [] := ⟨.none, fun _ _ => rfl⟩
  have found := decodeMembers_alike ["username", "password"] (by simp) broken alike nothing
  simp only [Credentials.decode, decodeStruct]
  generalize decodeMembers _ _ broken [] members = x,
    decodeMembers _ _ broken [] members' = x' at found
  cases found with
  | failed e => exact .failed e
  | @ok found found' both =>
    have password := both.password
    simp only [Found.require, both.others "username" (by decide)]
    cases found'.get? "username" with
    | none => exact .failed _
    | some username =>
      generalize found.get? "password" = x, found'.get? "password" = x' at password
      cases password with
      | none => exact .failed _
      | some stands => exact .ok ⟨rfl, stands⟩

theorem decodeText_alike {text text' : String} (alike : TextsAlike P text text') :
    Together (Counterparts P) (decodeText Credentials.decode text)
      (decodeText Credentials.decode text') := by
  obtain ⟨members, members', broken, trailing, same, read, read'⟩ := alike
  have decoded := decode_alike broken same
  simp only [decodeText, read, read']
  generalize Credentials.decode (.object members broken) = x,
    Credentials.decode (.object members' broken) = x' at decoded
  cases decoded with
  | failed e => exact .failed e
  | ok counterparts =>
    cases trailing with
    | none => exact .ok counterparts
    | some b => exact .failed _

/-- Files that are the same up to the password bring credentials of the same user, or fail by the
same failure. -/
theorem acquire_alike {faults : Wording} (prompt : faults.Prompt Credentials.decode)
    (env : String → Option String) (path : String) (read read' : String → FileText)
    (alike : FilesAlike P (read path) (read' path)) :
    AcquiredAlike (Counterparts P) (CredentialSource.acquire env read (.file path) faults)
      (CredentialSource.acquire env read' (.file path) faults) := by
  simp only [CredentialSource.acquire]
  generalize read path = file, read' path = file' at alike
  cases alike with
  | @texts text text' c alike usable =>
    have decoded := decodeText_alike alike
    rw [usable] at decoded
    simp only [usable]
    generalize decodeText Credentials.decode text' = result at decoded
    cases decoded with
    | ok counterparts => exact .ok counterparts
  | refused certain rest rest' =>
    simp only [certain rest, certain rest', prompt.message_eq certain rest rest']
    exact .failed _
  | useless failed =>
    simp only [failed]
    exact .failed _
  | unread fault => exact .failed _

/-! ## Cameras -/

/-- Two credentials files and the cameras that they are meant for. The files are the same up to the
password, and the one camera treats the one password as the other camera the other. -/
structure Twins {ν ν' : Type} (P : String → String → Prop) (R : ν → ν' → Prop)
    (file : ν → FileText) (file' : ν' → FileText) (camera : Request → ν → Exchange × Duration × ν)
    (camera' : Request → ν' → Exchange × Duration × ν') : Prop where
  files : ∀ v v', R v v' → FilesAlike P (file v) (file' v')
  answers : ∀ query c c' v v', Counterparts P c c' → R v v' →
    (camera ⟨query, c⟩ v).1 = (camera' ⟨query, c'⟩ v').1 ∧
      (camera ⟨query, c⟩ v).2.1 = (camera' ⟨query, c'⟩ v').2.1 ∧
      R (camera ⟨query, c⟩ v).2.2 (camera' ⟨query, c'⟩ v').2.2

theorem Twins.alike {ν ν' : Type} {R : ν → ν' → Prop} {file : ν → FileText} {file' : ν' → FileText}
    {camera : Request → ν → Exchange × Duration × ν}
    {camera' : Request → ν' → Exchange × Duration × ν'}
    (twins : Twins P R file file' camera camera')
    {faults : Wording} (prompt : faults.Prompt Credentials.decode) (identityFaults : Wording)
    (env : String → Option String) (path : String) :
    (Surroundings.ofSource env (.file path) file camera faults identityFaults).Alike
      (Counterparts P) R (.ofSource env (.file path) file' camera' faults identityFaults) where
  acquire := fun v v' same =>
    acquire_alike prompt env path (fun _ => file v) (fun _ => file' v') (twins.files v v' same)
  acquired := fun _ _ same => same
  exchange := twins.answers
  identityFaults := rfl

end CameraTelemetry.Camera

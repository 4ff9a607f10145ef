import Agora.Service.Payload
import Agora.Store.Call

set_option autoImplicit false

namespace Agora

namespace Store

/-- The number of characters of a text is within bounds. -/
def Measures (least most : Nat) (text : String) : Prop :=
  least ≤ text.length ∧ text.length ≤ most

/-- What a person may be registered with. -/
structure Registrable (email username role : String) : Prop where
  brief : Measures 1 255 email
  address : '@' ∈ email.toList
  named : Measures 8 20 username
  newcomer : role = "user"

structure Post.Published (p : Post) : Prop where
  title : Measures 1 100 p.title
  content : Measures 1 1000 p.content
  version : 0 ≤ p.version

structure Remark.Published (r : Remark) : Prop where
  text : Measures 1 100 r.text
  post : 0 < r.postId

/-- The operation writes only what keeps within the limits; what is put in from outside is not
asked. -/
def Call.Published : Call → Prop
  | .seedUser .. => False
  | .createAndInvite new _ _ => Registrable new.email new.username new.role
  | .createPost _ title content _ => Measures 1 100 title ∧ Measures 1 1000 content
  | .updatePost u => (∀ title ∈ u.title, Measures 1 100 title) ∧
      ∀ content ∈ u.content, Measures 1 1000 content
  | .createComment postId _ text => 0 < postId ∧ Measures 1 100 text
  | _ => True

end Store

namespace Service

open Http (Request)
open Store (Measures Registrable)

theorem ok_of_bind {ε α β : Type} {first : Except ε α} {next : α → Except ε β} {value : β}
    (succeeds : first >>= next = .ok value) : ∃ a, first = .ok a ∧ next a = .ok value := by
  cases first with
  | error _ => cases succeeds
  | ok a => exact ⟨a, rfl, succeeds⟩

theorem checkLength_ok {field text : String} {least most : Nat}
    (checked : checkLength field text least most = .ok ()) : Measures least most text := by
  unfold checkLength at checked
  split at checked
  · cases checked
  · split at checked
    · cases checked
    · constructor <;> omega

theorem demand_ok {holds : Bool} {otherwise : Complaint}
    (demanded : demand holds otherwise = .ok ()) : holds = true := by
  cases holds with
  | true => rfl
  | false => cases demanded

theorem forM_ok {α : Type} {check : α → Except Complaint Unit} {given : Option α}
    (checked : given.forM check = .ok ()) : ∀ value ∈ given, check value = .ok () := by
  intro value present
  cases present
  exact checked

variable {most : Nat} {q : Request}

theorem Registration.registrable {r : Registration}
    (read : Registration.ofRequest most q = .ok r) : Registrable r.email r.username "user" := by
  obtain ⟨fields, _, rest⟩ := ok_of_bind read
  obtain ⟨_, checked, same⟩ := ok_of_bind rest
  cases same
  obtain ⟨_, email, rest⟩ := ok_of_bind checked
  obtain ⟨_, address, rest⟩ := ok_of_bind rest
  obtain ⟨_, username, _⟩ := ok_of_bind rest
  exact {
    brief := checkLength_ok email
    address := List.contains_iff_mem.1 (demand_ok address)
    named := checkLength_ok username
    newcomer := rfl }

theorem Draft.measures {d : Draft} (read : Draft.ofRequest most q = .ok d) :
    Measures 1 100 d.title ∧ Measures 1 1000 d.content := by
  obtain ⟨fields, _, rest⟩ := ok_of_bind read
  obtain ⟨_, title, rest⟩ := ok_of_bind rest
  obtain ⟨_, content, same⟩ := ok_of_bind rest
  cases same
  exact ⟨checkLength_ok title, checkLength_ok content⟩

theorem Revision.measures {r : Revision} (read : Revision.ofRequest most q = .ok r) :
    (∀ title ∈ r.title, Measures 1 100 title) ∧
      ∀ content ∈ r.content, Measures 1 1000 content := by
  obtain ⟨fields, _, rest⟩ := ok_of_bind read
  obtain ⟨_, checked, same⟩ := ok_of_bind rest
  cases same
  obtain ⟨_, _, rest⟩ := ok_of_bind checked
  obtain ⟨_, title, content⟩ := ok_of_bind rest
  constructor
  · intro text given
    exact checkLength_ok (forM_ok title text given)
  · intro text given
    exact checkLength_ok (forM_ok content text given)

theorem Reply.measures {r : Reply} (read : Reply.ofRequest most q = .ok r) :
    0 < r.postId ∧ Measures 1 100 r.text := by
  obtain ⟨fields, _, rest⟩ := ok_of_bind read
  obtain ⟨_, positive, rest⟩ := ok_of_bind rest
  obtain ⟨_, text, same⟩ := ok_of_bind rest
  cases same
  exact ⟨of_decide_eq_true (demand_ok positive), checkLength_ok text⟩

end Service

end Agora

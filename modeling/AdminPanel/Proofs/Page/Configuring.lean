import AdminPanel.Page.Action
import AdminPanel.Page.Text
import AdminPanel.Proofs.Json.Printing
import AdminPanel.Proofs.Page.SingleCall

/-!
# The configuration of the server

A configuration is sent as the text that it is, and only if the text is a document of an object. What the
server has is shown whatever it is: a text that is no document as itself, and the value of a document in
print, which is a document of the same value.

* **`setConfig_of_isDocument`**, **`setConfig_of_not_isObject`**, **`setConfig_of_not_isDocument`** — what is
  sent, and what is refused before anything is sent.
* **`isDocument_configText`** — what is shown of a document is a document of its value.
* **`config_verbatim`** — the way out and the way in.
-/

namespace AdminPanel.Page

open Json (IsDocument Exact Tells Value spells_stringChars tells_integer)
open Message
open Rpc

variable {content raw : String} {v : Value} {l : Line}

/-! ## Sending a configuration -/

theorem setConfig_of_isDocument {members : List (String × Value)}
    (h : IsDocument content.toList (.object members)) :
    setConfig content = do return (fun _ => ()) (← unary .setConfig { content := content }) := by
  rw [setConfig, checkConfig, Json.parse_eq_ok_iff.mpr h]
  rfl

theorem setConfig_of_not_isObject (h : IsDocument content.toList v) (other : v.isObject = false) :
    runOn (setConfig content) l = (.error (.invalidRequest "config must be a JSON object"), l) := by
  rw [setConfig, checkConfig, Json.parse_eq_ok_iff.mpr h]
  simp only [other, Bool.false_eq_true, ↓reduceIte]
  rfl

theorem setConfig_of_not_isDocument (h : ∀ v, ¬ IsDocument content.toList v) :
    ∃ e, Json.parse content = .error e ∧ runOn (setConfig content) l =
      (.error (.invalidRequest ("config is not valid JSON: " ++ e.message)), l) := by
  cases parsed : Json.parse content with
  | ok v => exact absurd (Json.parse_eq_ok_iff.mp parsed) (h v)
  | error e =>
    refine ⟨e, rfl, ?_⟩
    rw [setConfig, checkConfig, parsed]
    rfl

/-! ## Showing a configuration -/

theorem configContent_of_isDocument (h : IsDocument raw.toList v) : configContent raw = v := by
  rw [configContent, Json.parse_eq_ok_iff.mpr h]

theorem configContent_of_not_isDocument (h : ∀ v, ¬ IsDocument raw.toList v) :
    configContent raw = .string raw := by
  unfold configContent
  split
  · next v parsed => exact absurd (Json.parse_eq_ok_iff.mp parsed) (h v)
  · rfl

theorem configText_of_ne_string (h : ∀ s, v ≠ .string s) : configText v = v.print ++ "\n" := by
  unfold configText
  split
  · next s => exact absurd rfl (h s)
  · rfl

/-- The page is one call, and what is made of its answer. -/
theorem load_config (clock : Clock) :
    load clock .config =
      do return .config (configContent (← unary .getConfig {}).content) := by
  show View.load clock .config = _
  simp only [View.load, loadConfigText, bind_assoc, pure_bind]

/-- What is shown of a document is a document of the same value, unless it is a string or holds a number that
had to be rounded. -/
theorem isDocument_configText (h : IsDocument raw.toList v) (noString : ∀ s, v ≠ .string s)
    (exact' : Exact v) : IsDocument (configText (configContent raw)).toList v := by
  have lineBreak : Json.IsGap ['\n'] := fun c within => by
    rw [List.mem_singleton.mp within]
    rfl
  rw [configContent_of_isDocument h, configText_of_ne_string noString]
  exact Json.parse_eq_ok_iff.mp (Json.parse_print (Json.parse_eq_ok_iff.mpr h) exact' lineBreak)

/-- **The configuration goes out as it is or not at all, and comes back readable.** A text that is a document
of an object is sent in one call, in which the server reads the text; any other text is refused, and
nothing happens. The page of the configuration is there whatever text the server has; a text that is no
document is shown as it is, and what is shown of any other is a document of the same value, unless it is
a string or holds a number that had to be rounded, so that showing it again changes nothing. -/
theorem config_verbatim {address : String} {hasRoots : Bool} {l : Line} {script : Script}
    (dialed : Transport.new address hasRoots = .ok l.transport) (peer : l.peer = .scripted script)
    (working : Working l.store) :
    (∀ content members, IsDocument content.toList (.object members) →
      MakesOneCall l script .setConfig { content := content } (fun _ => ()) (setConfig content)) ∧
    (∀ content, (∀ members, ¬ IsDocument content.toList (.object members)) →
      ∃ message, runOn (setConfig content) l = (.error (.invalidRequest message), l)) ∧
    (∀ clock, MakesOneCall l script .getConfig {} (fun answer => .config (configContent answer.content))
      (load clock .config)) ∧
    (∀ raw, (∀ v, ¬ IsDocument raw.toList v) →
      (Data.config (configContent raw)).text = raw ++ "\n") ∧
    (∀ raw v, IsDocument raw.toList v → (∀ s, v ≠ .string s) → Exact v →
      IsDocument (Data.config (configContent raw)).text.toList v ∧
      (Data.config (configContent (Data.config (configContent raw)).text)).text =
        (Data.config (configContent raw)).text) := by
  refine ⟨fun content members document => ?_, fun content other => ?_, fun clock => ?_,
    fun raw none' => ?_, fun raw v document noString exact' => ?_⟩
  · exact makesOneCall_of_unary dialed peer working (by decide) (by simp [declared, Method.setConfig]) rfl
      (setConfig_of_isDocument document)
  -- what is no object is either another document or none at all, and each is refused in its own words
  · by_cases some' : ∃ v, IsDocument content.toList v
    · obtain ⟨v, document⟩ := some'
      have notObject : v.isObject = false := by
        cases v with
        | object members => exact absurd document (other members)
        | _ => rfl
      exact ⟨_, setConfig_of_not_isObject document notObject⟩
    · obtain ⟨e, -, refused⟩ := setConfig_of_not_isDocument (l := l) (not_exists.mp some')
      exact ⟨_, refused⟩
  · exact makesOneCall_of_unary dialed peer working (by decide) (by simp [declared, Method.getConfig]) rfl
      (load_config clock)
  · show configText (configContent raw) = raw ++ "\n"
    rw [configContent_of_not_isDocument none']
    rfl
  · show IsDocument (configText (configContent raw)).toList v ∧
      configText (configContent (configText (configContent raw))) = configText (configContent raw)
    -- shown once it is the same document, so that it is laid out the same the second time
    have shown := isDocument_configText document noString exact'
    refine ⟨shown, ?_⟩
    rw [configContent_of_isDocument shown, configContent_of_isDocument document]

/-- An object whose text names a member twice and has its numbers at the limits: it is sent as it stands, a
list is not, and what is shown of it is a document of the same object. -/
theorem config_verbatim_limits :
    let l : Line := ⟨⟨.memory [("token", "t")], {}⟩, ⟨"http://h/api", ⟨"http", "h", "/api"⟩⟩,
      .scripted [("SetConfig", [.messages [[]] (.status .ok "")])], []⟩
    let content := "\x7b\"b\":[0,true],\"a\":-9223372036854775808, \"b\":18446744073709551615\x7d"
    (∃ c, (runOn (setConfig content) l).2.calls = [c] ∧
      Method.setConfig.request.read c.body = .ok { content := content }) ∧
    (∃ message, runOn (setConfig "[]") l = (.error (.invalidRequest message), l)) ∧
    IsDocument (Data.config (configContent content)).text.toList
      (.object [("a", .int (-9223372036854775808)), ("b", .int 18446744073709551615)]) := by
  intro l content
  have dialed : Transport.new "http://h/api" true = .ok l.transport := by decide +kernel
  have working : Working l.store := ⟨some "t", by decide +kernel, by decide +kernel⟩
  obtain ⟨sent, refused, -, -, shown⟩ := config_verbatim dialed rfl working
  have gap : Json.IsGap [] := List.forall_mem_nil _
  have document : IsDocument content.toList
      (.object [("a", .int (-9223372036854775808)), ("b", .int 18446744073709551615)]) := by
    have blank : Json.IsGap [' '] := fun c within => by
      rw [List.mem_singleton.mp within]
      rfl
    have list : Tells 126 (.value (.array [.int 0, .bool true])) "[0,true]".toList :=
      .list gap (.item (tells_integer (by decide) (by decide)) gap gap (.lastItem .true gap))
    have first : Tells 126 (.member "b" _) _ := .member (spells_stringChars "b") gap gap list
    have second : Tells 126 (.member "a" (.int (-9223372036854775808))) _ :=
      .member (spells_stringChars "a") gap gap (tells_integer (by decide) (by decide))
    have third : Tells 126 (.member "b" (.int 18446744073709551615)) _ :=
      .member (spells_stringChars "b") gap gap (tells_integer (by decide) (by decide))
    have object : Tells 127 (.value (.object _)) _ :=
      .object gap (first.members gap gap (second.members gap blank (third.lastMember gap)))
    -- of the two members of one name the later one counts
    have order (list low high : Value) : Json.Members.ofList [("b", list), ("a", low), ("b", high)] =
        [("a", low), ("b", high)] := by
      have behind : ¬ "b" < "a" := by decide
      have before : "a" < "b" := by decide
      have different : "a" ≠ "b" := by decide
      simp only [Json.Members.ofList, List.foldl_cons, List.foldl_nil, Json.Members.insert,
        if_neg different, if_neg different.symm, if_pos before, if_neg behind, ↓reduceIte]
    rw [order] at object
    exact ⟨[], _, [], gap, gap, object, by decide +kernel⟩
  refine ⟨?_, refused "[]" fun members object => ?_, ?_⟩
  · obtain ⟨c, left, -, -, body, read⟩ := (sent content _ document).call
    refine ⟨c, congrArg Line.calls left, read ?_⟩
    rw [body]
    decide +kernel
  · have list : IsDocument "[]".toList (.array []) := ⟨[], _, [], gap, gap, .emptyList gap, rfl⟩
    cases (Json.parse_eq_ok_iff.mpr list).symm.trans (Json.parse_eq_ok_iff.mpr object)
  · refine (shown content _ document (fun s same => by cases same) (.object fun m within => ?_)).1
    simp only [List.mem_cons, List.not_mem_nil, or_false] at within
    rcases within with rfl | rfl <;> exact .integer _

end AdminPanel.Page

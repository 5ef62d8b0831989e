/-
  File:      Sippak/Contact.lean
  Subject:   THE GENERATED CONTACT (sip_helper.c: `sippak_create_contact_hdr`): what it reads as,
             and whether it fits its buffer.

  Without `-c` the text is put together from the username, the local address and the port with
  `sprintf` into 256 bytes on the stack: a text that does not fit is written past them
  (`.outOfBounds`). The username goes in as it is, where the grammar wants it escaped, and its
  length is bounded nowhere between the command line and the buffer.

  * `contact_cases` -- the three outcomes, by the lengths of the parts;
  * `contact_decodes_iff` -- **when the text reads back as what it was made of**;
  * `getopts_contact` -- username and `-c` text as the command line has them;
  * `contact_fits_iff` -- **when the text fits**, from the command line on.
-/
import Sippak.Lib.SipText
import Sippak.Main

namespace Sippak

open CStr SipText

/-! ## 1. The function -/

/-- The format `"sip:%.*s@%.*s:%d"`. -/
def contactText (username localAddr : PjStr) (localPort : Int) : CStr :=
  "sip:".toList ++ (upToNul username.text ++ '@' ::
    (upToNul localAddr.text ++ ':' :: showSigned localPort))

/-- `sippak_create_contact_hdr`. -/
def sippakCreateContactHdr (app : App) (localAddr : PjStr) (localPort : Int) :
    Except Abort PjStr :=
  if 0 < app.cfg.contact.slen then .ok app.cfg.contact
  else match sprintf PJSIP_MAX_URL_SIZE (contactText app.cfg.username localAddr localPort) with
    | none => .error .outOfBounds
    | some contact => .ok (some contact)

/-- The bytes the text takes, the terminating zero with them. -/
def contactSize (username localAddr : PjStr) (localPort : Int) : Nat :=
  (upToNul username.text).length + (upToNul localAddr.text).length +
    (showSigned localPort).length + 7

theorem contactText_length (username localAddr : PjStr) (localPort : Int) :
    (contactText username localAddr localPort).length + 1 =
      contactSize username localAddr localPort := by
  unfold contactText contactSize
  simp only [List.length_append, List.length_cons]
  have hsip : "sip:".toList.length = 4 := rfl
  omega

/-- **The outcomes**: the `-c` text; the generated one; a write past the buffer. -/
theorem contact_cases (app : App) (localAddr : PjStr) (localPort : Int) :
    sippakCreateContactHdr app localAddr localPort =
      if 0 < app.cfg.contact.slen then .ok app.cfg.contact
      else if contactSize app.cfg.username localAddr localPort ≤ PJSIP_MAX_URL_SIZE then
        .ok (some (contactText app.cfg.username localAddr localPort))
      else .error .outOfBounds := by
  unfold sippakCreateContactHdr sprintf
  rw [contactText_length]
  by_cases hfit : contactSize app.cfg.username localAddr localPort ≤ PJSIP_MAX_URL_SIZE
  · rw [if_pos hfit, if_pos hfit]
  · rw [if_neg hfit, if_neg hfit]

/-! ## 2. Reading it back -/

theorem upToNul_addr (addr : InAddr) : upToNul addr.text = addr.text := by
  refine upToNul_of_noNul fun c hc => ?_
  intro e
  subst e
  exact absurd ((isHost_iff.mp (isHost_addr addr)).2 _ hc) (by decide)

/-- What the Contact is to read as. -/
def contactAddr (username : PjStr) (addr : InAddr) (port : Nat) : SipAddr :=
  ⟨if username.text = [] then none else some username.text, addr.text, some port⟩

/-- The username reads back from the text before the `@` exactly where it is there and consists
    of user characters. -/
theorem username_reads_iff (username : CStr) :
    (upToNul username ≠ [] ∧ unescape (upToNul username) = some username) ↔
      username ≠ [] ∧ ∀ c ∈ username, isUserChar c = true := by
  constructor
  · intro ⟨hne, h⟩
    obtain ⟨heq, hall⟩ := (unescape_length h).2 (upToNul_length_le username)
    rw [heq] at hne hall
    exact ⟨hne, hall⟩
  · intro ⟨hne, hall⟩
    have hnul : upToNul username = username := by
      refine upToNul_of_noNul fun c hc => ?_
      intro e
      subst e
      exact absurd (hall _ hc) (by decide)
    rw [hnul]
    exact ⟨hne, unescape_of_user hall⟩

theorem contactText_parse_iff (username : PjStr) (addr : InAddr) (port : Nat) :
    SipText.parse (contactText username (some addr.text) port) =
        some (contactAddr username addr port) ↔
      username.text ≠ [] ∧ ∀ c ∈ username.text, isUserChar c = true := by
  have hhp : parseHostport (upToNul (PjStr.text (some addr.text)) ++ ':' :: showSigned port) =
      some (addr.text, some port) := by
    have haddr : upToNul (PjStr.text (some addr.text)) = addr.text := upToNul_addr addr
    have h := parseHostport_append (isHost_addr addr) (showDec_ne_nil port)
      fun c hc => isDigit_of_mem_showDec hc
    rw [decimal_showDec] at h
    rw [haddr]
    exact h
  unfold contactText
  rw [parse_userHost_iff hhp, ← username_reads_iff]
  unfold contactAddr
  constructor
  · intro ⟨hne, u, hu, heq⟩
    have hsome : (if username.text = [] then none else some username.text) = some u := by
      injection heq
    have htext : username.text = u := by
      split at hsome
      · cases hsome
      · exact Option.some.inj hsome
    exact ⟨hne, htext ▸ hu⟩
  · intro ⟨hne, hu⟩
    have htext : username.text ≠ [] := by
      intro h
      rw [h] at hne
      exact hne rfl
    exact ⟨hne, _, hu, by rw [if_neg htext]⟩

/-- **The generated Contact reads back as what it was made of** exactly when the username is
    there, is made of characters that need no escape, and the text fits. -/
theorem contact_decodes_iff (app : App) (hc : app.cfg.contact.slen = 0) (addr : InAddr)
    (port : Nat) :
    (∃ t, sippakCreateContactHdr app (some addr.text) port = .ok (some t) ∧
        SipText.parse t = some (contactAddr app.cfg.username addr port)) ↔
      app.cfg.username.text ≠ [] ∧ (∀ c ∈ app.cfg.username.text, isUserChar c = true) ∧
        contactSize app.cfg.username (some addr.text) port ≤ PJSIP_MAX_URL_SIZE := by
  have hno : ¬ 0 < app.cfg.contact.slen := by omega
  rw [contact_cases, if_neg hno, ← and_assoc, ← contactText_parse_iff app.cfg.username addr port]
  by_cases hfit : contactSize app.cfg.username (some addr.text) port ≤ PJSIP_MAX_URL_SIZE
  · rw [if_pos hfit]
    constructor
    · intro ⟨t, ht, hparse⟩
      cases ht
      exact ⟨hparse, hfit⟩
    · intro ⟨hparse, _⟩
      exact ⟨_, rfl, hparse⟩
  · rw [if_neg hfit]
    constructor
    · intro ⟨t, ht, _⟩
      cases ht
    · intro ⟨_, hfit'⟩
      exact absurd hfit' hfit

/-- The structure with this username. -/
def App.withUsername (app : App) (username : PjStr) : App :=
  { app with cfg := { app.cfg with username := username } }

/-- `sip:alice@192.168.1.111:14255`. -/
theorem contact_decodes_alice :
    (∃ t, sippakCreateContactHdr (sippakInit.withUsername (some "alice".toList))
        (some (InAddr.text ⟨192, 168, 1, 111⟩)) 14255 = .ok (some t) ∧
      SipText.parse t =
        some (contactAddr (some "alice".toList) ⟨192, 168, 1, 111⟩ 14255)) ↔
      "alice".toList ≠ [] ∧ (∀ c ∈ "alice".toList, isUserChar c = true) ∧
        contactSize (some "alice".toList) (some (InAddr.text ⟨192, 168, 1, 111⟩)) 14255 ≤
          PJSIP_MAX_URL_SIZE :=
  contact_decodes_iff (sippakInit.withUsername (some "alice".toList)) rfl ⟨192, 168, 1, 111⟩ 14255

/-- `-u "john doe"` and a destination without a user part give texts that are no SIP URI, and
    `-u j%41` one whose user is `jA`. -/
theorem contact_not_decoded :
    (∃ app t, sippakGetopts Build.g711 UriLib.plain
        (fun _ => ([.username "john doe".toList], ["register".toList, "sip:host".toList]))
        ["sippak".toList, "-u".toList, "john doe".toList, "register".toList, "sip:host".toList]
        sippakInit = .ok (.PJ_SUCCESS, app) ∧ app.cfg.contact.slen = 0 ∧
      sippakCreateContactHdr app (some (InAddr.text ⟨10, 0, 0, 1⟩)) 5060 = .ok (some t) ∧
      t = "sip:john doe@10.0.0.1:5060".toList ∧ SipText.parse t = none) ∧
    (∃ app t, sippakGetopts Build.g711 UriLib.plain
        (fun _ => ([], ["register".toList, "sip:host".toList]))
        ["sippak".toList, "register".toList, "sip:host".toList] sippakInit =
          .ok (.PJ_SUCCESS, app) ∧ app.cfg.contact.slen = 0 ∧
      sippakCreateContactHdr app (some (InAddr.text ⟨10, 0, 0, 1⟩)) 5060 = .ok (some t) ∧
      t = "sip:@10.0.0.1:5060".toList ∧ SipText.parse t = none) ∧
    ∃ app t, sippakGetopts Build.g711 UriLib.plain
        (fun _ => ([.username "j%41".toList], ["register".toList, "sip:host".toList]))
        ["sippak".toList, "-u".toList, "j%41".toList, "register".toList, "sip:host".toList]
        sippakInit = .ok (.PJ_SUCCESS, app) ∧ app.cfg.contact.slen = 0 ∧
      sippakCreateContactHdr app (some (InAddr.text ⟨10, 0, 0, 1⟩)) 5060 = .ok (some t) ∧
      SipText.parse t = some ⟨some "jA".toList, "10.0.0.1".toList, some 5060⟩ :=
  ⟨⟨_, _, rfl, rfl, rfl, by decide, by decide⟩, ⟨_, _, rfl, rfl, rfl, by decide, by decide⟩,
    ⟨_, _, rfl, rfl, rfl, by decide⟩⟩

/-! ## 3. From the command line to the buffer -/

def Opt.contactArg : Opt → Option CStr
  | .contact optarg => some optarg
  | _ => none

/-- The username of a command line: the last `-u`, trimmed, or the user part of the
    destination. -/
def lineUsername (lib : UriLib) (opts : List Opt) (left : List CStr) : PjStr :=
  match lastArg Opt.usernameArg opts, destArg left with
  | some username, _ => some (trim username)
  | none, none => none
  | none, some dest =>
    match lib.parseUri (some dest) with
    | some (.sip u) => u.user
    | _ => none

theorem optLoop_contact {b : Build} {lib : UriLib} {os : List Opt} {app app' : App}
    (h : optLoop b lib app os = .ok (.next app')) :
    app'.cfg.contact = ((lastArg Opt.contactArg os).map trim).or app.cfg.contact := by
  refine optLoop_text (fun app app' o hs => ?_) h
  cases o with
  | contact => cases hs; rfl
  | _ =>
      rw [optStep_write hs]
      rfl

/-- **Username and Contact of the command line**, in every configuration that is not for the help
    text or the version. -/
theorem getopts_contact {b : Build} {lib : UriLib} {getopt : GetoptLong} {argv : List CStr}
    {app : App} (hok : sippakGetopts b lib getopt argv sippakInit = .ok (.PJ_SUCCESS, app))
    (hhelp : app.cfg.cmd ≠ .CMD_HELP) (hversion : app.cfg.cmd ≠ .CMD_VERSION) :
    app.cfg.username = lineUsername lib (getopt argv).1 (getopt argv).2 ∧
      app.cfg.contact = (lastArg Opt.contactArg (getopt argv).1).map trim := by
  rcases getopts_cases hok with (hc | hc) | ⟨app₁, hloop, hpost⟩
  · exact absurd hc hhelp
  · exact absurd hc hversion
  · have hf := optLoop_fields hloop
    obtain ⟨ldest, luser, -, -⟩ := parseArgvLeft_fields app₁ (getopt argv).2
    have lcontact : (setupMwi (sippakParseArgvLeft app₁ (getopt argv).2)).cfg.contact =
        app₁.cfg.contact := by rw [setupMwi_frame, parseArgvLeft_frame]
    obtain ⟨hset, -, -⟩ := postParseSetup_checks hpost
    obtain ⟨-, mdest, muser, -, -⟩ :=
      setupMwi_fields (sippakParseArgvLeft app₁ (getopt argv).2)
    have hcontact := lcontact.trans ((optLoop_contact hloop).trans Option.or_none)
    have huser := muser.trans (luser.trans (hf.username.trans Option.or_none))
    have hdest : (setupMwi (sippakParseArgvLeft app₁ (getopt argv).2)).cfg.dest =
        destArg (getopt argv).2 := by
      rw [mdest, ldest, hf.dest]
      exact Option.or_none
    unfold lineUsername
    rcases setupUsername_cases hset with ⟨rfl, hnodest⟩ | ⟨uri, u, hno, hsome, huri, hu, rfl⟩
    · -- the username was given, or there is no destination
      refine ⟨?_, hcontact⟩
      rw [huser, hdest] at hnodest
      rw [huser]
      cases hl : lastArg Opt.usernameArg (getopt argv).1 with
      | some username => rfl
      | none =>
          rw [hl] at hnodest
          rw [hnodest rfl]
          rfl
    · refine ⟨?_, hcontact⟩
      rw [huser, Option.map_eq_none_iff] at hno
      rw [hdest] at huri hsome
      obtain ⟨dest, hd⟩ := Option.ne_none_iff_exists'.mp hsome
      rw [hno, hd]
      rw [hd] at huri
      dsimp only
      rw [huri]
      cases uri with
      | sip v =>
          cases hu
          rfl
      | nameAddr | tel | other => cases hu

/-- **The text fits its buffer** exactly where a Contact is given, or username, address and port
    leave room for the rest of the format; and the username is that of the command line, at its
    full length. -/
theorem contact_fits_iff {b : Build} {lib : UriLib} {getopt : GetoptLong} {argv : List CStr}
    {app : App} (hok : sippakGetopts b lib getopt argv sippakInit = .ok (.PJ_SUCCESS, app))
    (localAddr : PjStr) (localPort : Int) :
    (sippakCreateContactHdr app localAddr localPort ≠ .error .outOfBounds ↔
      0 < app.cfg.contact.slen ∨
        contactSize app.cfg.username localAddr localPort ≤ PJSIP_MAX_URL_SIZE) ∧
    (app.cfg.cmd ≠ .CMD_HELP → app.cfg.cmd ≠ .CMD_VERSION →
      app.cfg.username = lineUsername lib (getopt argv).1 (getopt argv).2 ∧
        app.cfg.contact = (lastArg Opt.contactArg (getopt argv).1).map trim) := by
  refine ⟨?_, getopts_contact hok⟩
  rw [contact_cases]
  by_cases hc : 0 < app.cfg.contact.slen
  · rw [if_pos hc]
    exact ⟨fun _ => Or.inl hc, fun _ h => by cases h⟩
  · rw [if_neg hc]
    by_cases hfit : contactSize app.cfg.username localAddr localPort ≤ PJSIP_MAX_URL_SIZE
    · rw [if_pos hfit]
      exact ⟨fun _ => Or.inr hfit, fun _ h => by cases h⟩
    · rw [if_neg hfit]
      exact ⟨fun h => absurd rfl h, fun h => absurd h (not_or.mpr ⟨hc, hfit⟩)⟩

/-- `sippak register sip:alice@host`. -/
theorem contact_fits_alice : ∃ app,
    sippakGetopts Build.g711 UriLib.plain
        (fun _ => ([], ["register".toList, "sip:alice@host".toList]))
        ["sippak".toList, "register".toList, "sip:alice@host".toList] sippakInit =
      .ok (.PJ_SUCCESS, app) ∧
    (sippakCreateContactHdr app (some "10.0.0.1".toList) 5060 ≠ .error .outOfBounds ↔
      0 < app.cfg.contact.slen ∨
        contactSize app.cfg.username (some "10.0.0.1".toList) 5060 ≤ PJSIP_MAX_URL_SIZE) :=
  ⟨_, rfl, (contact_fits_iff (b := Build.g711)
    (rfl : sippakGetopts Build.g711 UriLib.plain
      (fun _ => ([], ["register".toList, "sip:alice@host".toList]))
      ["sippak".toList, "register".toList, "sip:alice@host".toList] sippakInit = _) _ _).1⟩

/-- A username of 238 characters is one too many for `10.0.0.1:5060`. -/
theorem long_username_overflows : ∃ app,
    sippakGetopts Build.g711 UriLib.plain
        (fun _ => ([.username (List.replicate 238 'u')],
          ["register".toList, "sip:host".toList]))
        ["sippak".toList, "-u".toList, List.replicate 238 'u', "register".toList,
          "sip:host".toList] sippakInit = .ok (.PJ_SUCCESS, app) ∧
      sippakCreateContactHdr app (some "10.0.0.1".toList) 5060 = .error .outOfBounds := by
  refine ⟨{ sippakInit with cfg := { sippakInit.cfg with
    cmd := .CMD_REGISTER
    dest := some "sip:host".toList
    username := some (trim (List.replicate 238 'u')) } }, rfl, ?_⟩
  have hall : ∀ c ∈ List.replicate 238 'u', c = 'u' := fun c hc => List.eq_of_mem_replicate hc
  have htrim : trim (List.replicate 238 'u') = List.replicate 238 'u' :=
    trim_eq_self fun c hc => by rw [hall c hc]; decide
  have hnul : upToNul (List.replicate 238 'u') = List.replicate 238 'u' :=
    upToNul_of_noNul fun c hc => by rw [hall c hc]; decide
  have hsize : contactSize (some (trim (List.replicate 238 'u'))) (some "10.0.0.1".toList) 5060 =
      257 := by
    have htext : PjStr.text (some (List.replicate 238 'u')) = List.replicate 238 'u' := rfl
    have haddr : (upToNul (PjStr.text (some "10.0.0.1".toList))).length = 8 := by decide
    have hport : (showSigned 5060).length = 4 := by decide
    rw [contactSize, htrim, htext, hnul, List.length_replicate, haddr, hport]
  rw [contact_cases, if_neg (by decide)]
  dsimp only
  rw [hsize, if_neg (by decide)]

end Sippak

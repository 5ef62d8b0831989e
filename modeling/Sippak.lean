import Sippak.Lib.Run
import Sippak.Lib.LinkRing
import Sippak.Lib.CStr
import Sippak.Lib.Slots
import Sippak.Lib.AddAbsent
import Sippak.Lib.Tokens
import Sippak.Lib.Printf
import Sippak.Lib.SipText
import Sippak.Lib.NameTable
import Sippak.Lib.Gaps
import Sippak.Lib.FirstThen
import Sippak.App
import Sippak.Uri
import Sippak.MediaHelper
import Sippak.CodecList
import Sippak.CodecName
import Sippak.MediaSdp
import Sippak.Getopts
import Sippak.SipHelper
import Sippak.Tables
import Sippak.Casts
import Sippak.Options
import Sippak.RouteSet
import Sippak.Numeric
import Sippak.MwiList
import Sippak.Main
import Sippak.Dns
import Sippak.DnsPort
import Sippak.Resolver
import Sippak.Contact
import Sippak.HeaderList
import Sippak.Mod.Response
import Sippak.Mod.Request
import Sippak.Mod.RequestLoop
import Sippak.Mod.GiveUp
import Sippak.Mod.SipMangler
import Sippak.Mod.AddHeaders
import Sippak.Mod.Notify
import Sippak.Mod.Publish
import Sippak.ContentType
import Sippak.Event
import Sippak.Mod.NotifyParts
import Sippak.Mod.Invite
import Sippak.Lib.TokenLoop
import Sippak.TokenLoops
import Sippak.Lib.CArray
import Sippak.Mod.LogMessage
import Sippak.Mod.Logger
import Sippak.Lib.CallTrace
import Sippak.Lib.PollLoop
import Sippak.Lib.Printed
import Sippak.Lib.Reorder
import Sippak.OptionOrder
import Sippak.Line
import Sippak.Mod.NotifyAsked
import Sippak.Mod.NotifyAgree
import Sippak.Accepted
import Sippak.Mod.Command
import Sippak.Mod.OneRequest
import Sippak.Mod.Register
import Sippak.Mod.Subscribe
import Sippak.Mod.PublishCommand
import Sippak.Mod.InviteCommand
import Sippak.Mod.Handlers
import Sippak.Mod.Waits
import Sippak.Program

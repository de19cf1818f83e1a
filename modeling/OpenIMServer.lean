import OpenIMServer.Common.Base
import OpenIMServer.MsgGateway.HubServer
import OpenIMServer.MsgGateway.Presence
import OpenIMServer.MsgGateway.Fanout
import OpenIMServer.MsgGateway.Eviction
import OpenIMServer.Cache.Conversation
import OpenIMServer.Cache.Coherence
import OpenIMServer.Cache.NotNotify
import OpenIMServer.Mw.Gin
import OpenIMServer.A2r.Api2rpc
import OpenIMServer.Notification.GroupDatabase
import OpenIMServer.Notification.Group
import OpenIMServer.Notification.Handlers
import OpenIMServer.Notification.GroupMembers
import OpenIMServer.Notification.MergeGroupFull
import OpenIMServer.Notification.Recipients
import OpenIMServer.Notification.Broadcast
import OpenIMServer.Notification.Sender

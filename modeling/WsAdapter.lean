import WsAdapter.Basic
import WsAdapter.Propagate
import WsAdapter.Step
import WsAdapter.Moves
import WsAdapter.Notify
import WsAdapter.Ping
import WsAdapter.Queue
import WsAdapter.Slots
import WsAdapter.Scan
import WsAdapter.Handle
import WsAdapter.ReadLoop
import WsAdapter.ExampleClient

import FirChat.RoundTrip
import FirChat.Service
import FirChat.Delivery
import FirChat.Isolation
import FirChat.Latest
import FirChat.ChatView
import FirChat.SignUp
import FirChat.Reload
import FirChat.Rows
import FirChat.Draft
import FirChat.SignUpScreen
import FirChat.UserCell
import FirChat.ImageCache
import FirChat.Scroll
import FirChat.Zoom
import FirChat.Bubble
import FirChat.Chains
import FirChat.RowOrder
import FirChat.Conversation
import FirChat.Convergence
import FirChat.Contacts
import FirChat.Navigation
import FirChat.Inbox
import FirChat.Sends
import FirChat.Crashes
import FirChat.Ownership
